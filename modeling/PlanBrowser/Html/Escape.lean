/-!
# Escaping for HTML

Five characters mean something in the markup of a page: the ampersand, the two angle brackets and the two
quotation marks.  A text is **escaped** by writing each of them as an entity and everything else as it is, so
that the text can stand between tags and inside a quoted attribute.

* `entity` — what stands for a character in an escaped text;
* `escape` — the escaped text.
-/

namespace PlanBrowser.Html

/-- What stands for a character in an escaped text. -/
def entity (c : Char) : List Char :=
  if c = '&' then ['&', 'a', 'm', 'p', ';']
  else if c = '<' then ['&', 'l', 't', ';']
  else if c = '>' then ['&', 'g', 't', ';']
  else if c = '"' then ['&', 'q', 'u', 'o', 't', ';']
  else if c = '\'' then ['&', '#', '3', '9', ';']
  else [c]

/-- The characters of a text, escaped. -/
def escapeChars (cs : List Char) : List Char :=
  cs.flatMap entity

/-- **A text, escaped.** -/
def escape (s : String) : String :=
  String.ofList (escapeChars s.toList)

end PlanBrowser.Html

import PlanBrowser.Text.Numeral
import PlanBrowser.Text.Utf8

/-!
# Percent encoding

A character that may not stand in a part of a URL is written as the percent codes of its UTF-8 bytes.  Which
characters have to be encoded depends on the part: every set below extends the **controls**, which hold
everything outside printable ASCII.  Reading undoes all codes, whatever they stand for; a percent sign without
two hexadecimal digits stands for itself.

* `Escapes` and its values — the sets of characters that have to be encoded;
* `percentEncode` — characters to characters;
* `percentDecode` — characters to bytes.
-/

namespace PlanBrowser.Url

open PlanBrowser.Text

/-- A set of characters that have to be encoded. -/
abbrev Escapes := Char → Bool

/-- Everything outside printable ASCII. -/
def controls : Escapes := fun c =>
  c.toNat < 0x20 || 0x7E < c.toNat

/-- What is encoded after the fragment mark. -/
def fragmentEscapes : Escapes := fun c =>
  controls c || c == ' ' || c == '"' || c == '<' || c == '>' || c.toNat == 0x60

/-- What is encoded in a path that is read as a whole. -/
def pathEscapes : Escapes := fun c =>
  fragmentEscapes c || c == '#' || c == '?' || c.toNat == 0x7B || c.toNat == 0x7D

/-- What is encoded in a single segment that is put into a path. -/
def segmentEscapes : Escapes := fun c =>
  pathEscapes c || c == '/' || c == '%'

/-- What is encoded in such a segment where the backslash parts segments too. -/
def specialSegmentEscapes : Escapes := fun c =>
  segmentEscapes c || c == '\\'

/-- What is encoded in a user name or a password. -/
def credentialEscapes : Escapes := fun c =>
  pathEscapes c || c == '/' || c == ':' || c == ';' || c == '=' || c == '@' || c == '[' || c == '\\'
    || c == ']' || c == '^' || c == '|'

/-- What is encoded in a query. -/
def queryEscapes : Escapes := fun c =>
  controls c || c == ' ' || c == '"' || c == '#' || c == '<' || c == '>'

/-- What is encoded in the query of a special URL. -/
def specialQueryEscapes : Escapes := fun c =>
  queryEscapes c || c == '\''

/-- A hexadecimal digit in upper case. -/
def upperHex (n : Nat) : Char :=
  if n < 10 then Char.ofNat (48 + n) else Char.ofNat (55 + n)

/-- The code of a byte. -/
def percentCode (b : UInt8) : List Char :=
  ['%', upperHex (b.toNat / 16), upperHex (b.toNat % 16)]

/-- A character, encoded if it has to be. -/
def percentEncodeChar (escapes : Escapes) (c : Char) : List Char :=
  if escapes c then (Utf8.encodeChar c).flatMap percentCode else [c]

/-- **Encoding** of the characters that have to be encoded. -/
def percentEncode (escapes : Escapes) (cs : List Char) : List Char :=
  cs.flatMap (percentEncodeChar escapes)

/-- The byte that two hexadecimal digits spell. -/
def hexByte? (a b : Char) : Option UInt8 :=
  match hexDigit? a, hexDigit? b with
  | some a, some b => some (16 * a + b).toUInt8
  | _, _ => none

/-- **Decoding**: every percent code becomes its byte, every other character its UTF-8 bytes. -/
def percentDecode : List Char → List UInt8
  | '%' :: a :: b :: rest =>
    match hexByte? a b with
    | some byte => byte :: percentDecode rest
    | none => Utf8.encodeChar '%' ++ percentDecode (a :: b :: rest)
  | c :: rest => Utf8.encodeChar c ++ percentDecode rest
  | [] => []

end PlanBrowser.Url

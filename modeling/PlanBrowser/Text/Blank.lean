/-!
# Blank characters and trimming

A **blank** is a character with the Unicode property `White_Space`: twenty-five characters, the ASCII
controls `U+0009`–`U+000D` and the space among them.  The zero-width space and the byte order mark are
not blanks.  Every text that a user types or that arrives in a query is trimmed of blanks on both sides
before it is looked at.

* `isBlank` — the property, as a finite union of ranges;
* `trimChars`, `trim` — the text without its leading and trailing blanks;
* `trim_eq_self` — a text with no blank at either end stays as it is;
* `isBlankText` — nothing is left of the text after trimming.
-/

namespace PlanBrowser.Text

/-- The Unicode property `White_Space`. -/
def isBlank (c : Char) : Bool :=
  let n := c.toNat
  (9 ≤ n && n ≤ 13) || n == 0x20 || n == 0x85 || n == 0xA0 || n == 0x1680
    || (0x2000 ≤ n && n ≤ 0x200A) || n == 0x2028 || n == 0x2029 || n == 0x202F || n == 0x205F
    || n == 0x3000

/-- The characters without the blanks at the end. -/
def trimEnd (cs : List Char) : List Char :=
  (cs.reverse.dropWhile isBlank).reverse

/-- The characters without the blanks at either end. -/
def trimChars (cs : List Char) : List Char :=
  trimEnd (cs.dropWhile isBlank)

/-- The text without the blanks at either end. -/
def trim (s : String) : String :=
  String.ofList (trimChars s.toList)

theorem dropWhile_isBlank_eq_self {cs : List Char} (h : ∀ c, cs.head? = some c → isBlank c = false) :
    cs.dropWhile isBlank = cs := by
  cases cs with
  | nil => rfl
  | cons c cs => rw [List.dropWhile_cons, h c rfl, if_neg Bool.false_ne_true]

/-- **A text with no blank at either end** stays as it is. -/
theorem trim_eq_self {s : String} (hhead : ∀ c, s.toList.head? = some c → isBlank c = false)
    (hlast : ∀ c, s.toList.getLast? = some c → isBlank c = false) : trim s = s := by
  have hend : s.toList.reverse.dropWhile isBlank = s.toList.reverse := by
    apply dropWhile_isBlank_eq_self
    intro c hc
    apply hlast c
    rw [← hc, List.head?_reverse]
  rw [trim, trimChars, dropWhile_isBlank_eq_self hhead, trimEnd, hend, List.reverse_reverse, String.ofList_toList]

/-- **Only blanks**: trimming leaves nothing. -/
def isBlankText (s : String) : Bool :=
  s.toList.all isBlank

/-- A text counts as given when it holds something besides blanks. -/
def given? (s : String) : Option String :=
  if isBlankText s then none else some s

end PlanBrowser.Text

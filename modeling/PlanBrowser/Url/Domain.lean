import PlanBrowser.Text.Composition
import PlanBrowser.Text.Pieces
import PlanBrowser.Text.Utf8
import PlanBrowser.Url.Domain.Mapping
import PlanBrowser.Url.Domain.Property
import PlanBrowser.Url.Punycode

/-!
# Domain names

A domain name is a list of **labels** between dots.  Before it is looked up, its characters are mapped (letters
become small, variants of a character become the character) and composed; then every label that is not ASCII is
sent as a marker and Punycode.  A label that arrives with the marker must stand for a label that could have been
sent that way.

* `mapChar?`, `mapped?` — the mapping;
* `joinersFit`, `directionFits` — where invisible characters may stand, and how directions may mix;
* `isLabel` — a label that may be sent;
* `toAscii?` — **the name to look up**.
-/

namespace PlanBrowser.Url.Domain

open PlanBrowser.Text

/-- An ASCII character that a domain name cannot hold. -/
def isForbidden (c : Char) : Bool :=
  c.toNat ≤ 0x20 || c.toNat == 0x7F || "%#/:<>?@[\\]^|".toList.contains c

/-- A character of ASCII. -/
def isAscii (c : Char) : Bool :=
  c.toNat < 128

/-! ## The mapping -/

/-- What a character becomes, unless it is refused. -/
def mapChar? (c : Char) : Option (List Char) :=
  if isAscii c then some [c.toLower]
  else
    match replaced.value? c <|> spelled.value? c with
    | some cs => some cs
    | none => if leftOut.has c then some [] else if refused.has c then none else some [c]

/-- **The characters of a name, mapped and composed.** -/
def mapped? (cs : List Char) : Option (List Char) :=
  (cs.mapM mapChar?).map fun css => normal css.flatten

/-- A character that the mapping keeps. -/
def isKept (c : Char) : Bool :=
  mapChar? c == some [c]

/-! ## Joiners -/

/-- The last of some characters, given in reverse, that joining does not pass over. -/
def joinPartner (cs : List Char) : Option Char :=
  (cs.dropWhile joinsNever.has).head?

/-- The letters before and after a place would join; those before it are given in reverse. -/
def joinsAcross (before after : List Char) : Bool :=
  let joinsOn := match joinPartner before with
    | some c => joinsLeft.has c || joinsBoth.has c
    | none => false
  let joinsBack := match joinPartner after with
    | some c => joinsRight.has c || joinsBoth.has c
    | none => false
  joinsOn && joinsBack

/-- The class of the marks that silence a vowel. -/
def viramaClass : Nat := 9

/-- Every invisible joiner stands after a mark that silences a vowel; the one that keeps letters apart may also
stand where they would join.  `before` are the characters so far in reverse. -/
def joinersFit (before : List Char) : List Char → Bool
  | [] => true
  | c :: cs =>
    let afterVirama := match before with
      | b :: _ => classOf b == viramaClass
      | [] => false
    let fits :=
      if c.toNat == 0x200C then afterVirama || joinsAcross before cs
      else if c.toNat == 0x200D then afterVirama
      else true
    fits && joinersFit (c :: before) cs

/-! ## Directions -/

/-- How a character takes part in the direction of writing. -/
inductive Direction where
  | left
  | right
  | arabicDigit
  | europeanDigit
  | neutral
  | nonspacing
  deriving Repr, DecidableEq, Inhabited

/-- The direction of a character. -/
def directionOf (c : Char) : Direction :=
  if rightToLeft.has c then .right
  else if arabicDigit.has c then .arabicDigit
  else if europeanDigit.has c then .europeanDigit
  else if neutral.has c then .neutral
  else if nonspacing.has c then .nonspacing
  else .left

/-- A name with this character is partly written from right to left. -/
def Direction.turns (d : Direction) : Bool :=
  d == .right || d == .arabicDigit

/-- The directions of a label after the last of which only marks follow; the last one is in front. -/
def withoutMarks (ds : List Direction) : List Direction :=
  ds.reverse.dropWhile (· == .nonspacing)

/-- **The directions of a label fit together**: it begins with a letter, ends with a letter or a digit of its
direction, and holds nothing of the other direction, nor two kinds of digits. -/
def directionFits (ds : List Direction) : Bool :=
  match ds, withoutMarks ds with
  | .right :: _, last :: _ =>
    ds.all (· != .left) && (last == .right || last == .arabicDigit || last == .europeanDigit)
      && !(ds.contains .arabicDigit && ds.contains .europeanDigit)
  | .left :: _, last :: _ =>
    ds.all (!·.turns) && (last == .left || last == .europeanDigit)
  | [], _ => true
  | _, _ => false

/-! ## Labels -/

/-- The marker of a label in Punycode. -/
def marker : List Char := ['x', 'n', '-', '-']

/-- **A label that may be sent**: mapping leaves it as it is, and no mark is at its front. -/
def isLabel (l : List Char) : Bool :=
  l.all isKept && normal l == l && !(l.head?.map marks.has).getD false && joinersFit [] l

/-- A label as its user sees it, and as it is sent. -/
structure Label where
  shown : List Char
  sent : List Char

/-- The longest label that is written in Punycode. -/
def encodeLimit : Nat := 1000

/-- The longest Punycode that is read. -/
def decodeLimit : Nat := 2000

/-- The label that arrives in Punycode. -/
def arrived? (code sent : List Char) : Option Label := do
  if decodeLimit < code.length then none
  let shown ← Punycode.decode? code
  if shown.all isAscii || (stripFront? marker shown).isSome || !isLabel shown then none
  else some ⟨shown, sent⟩

/-- A label that is mapped and composed. -/
def label? (cs : List Char) : Option Label :=
  match stripFront? marker cs with
  | some code => if cs.all isAscii then arrived? code cs else none
  | none =>
    if cs.all isAscii then some ⟨cs, cs⟩
    else if encodeLimit < cs.length || !isLabel cs then none
    else some ⟨cs, marker ++ Punycode.encode cs⟩

/-- The directions in a name fit together, if it is partly written from right to left. -/
def directionsFit (labels : List Label) : Bool :=
  let dss := labels.map fun l => l.shown.map directionOf
  !dss.any (·.any Direction.turns) || dss.all directionFits

/-- **The name to look up**, for a name that arrives as bytes. -/
def toAscii? (bytes : List UInt8) : Option (List Char) := do
  let cs ← mapped? (← Utf8.decode? bytes)
  if cs.any isForbidden then none
  let labels ← (pieces '.' cs).mapM label?
  if directionsFit labels then some (joined ['.'] (labels.map (·.sent))) else none

end PlanBrowser.Url.Domain

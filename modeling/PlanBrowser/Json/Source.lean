import PlanBrowser.Text.Utf8

/-!
# Reading JSON: the source, its faults and its tokens

A JSON text is read from left to right, once.  The reading stops at the first **fault**, and only the kind
of that fault is told: the text is no JSON (`grammar`), it is JSON of another shape than the one asked for
(`shape`), or it ends too early (`ended`).  Which kind it is depends on what comes first, so the readers
below keep the order in which the characters are looked at.

A source is a list of characters in which `none` stands for bytes that belong to no character: they may
stand in a text that nobody looks at, and nowhere else.

* `Source`, `Fault`, `Reader` — what is read, what can go wrong, and a reader of one value;
* `skipBlanks`, `keyword` — blanks and the three literal names;
* `textTail` — a quoted text, after its opening mark;
* `nextItem`, `closeList`, `items` — the layout of a list;
* `nextKey`, `colon`, `closeObject`, `members` — the layout of an object.
-/

namespace PlanBrowser.Json

/-- The characters of a JSON text; `none` for bytes that belong to no character. -/
abbrev Source := List (Option Char)

/-- The kind of the first thing that is wrong. -/
inductive Fault where
  /-- The text is not JSON. -/
  | grammar
  /-- The text is JSON, but not of the shape asked for. -/
  | shape
  /-- The text ends early. -/
  | ended
  deriving Repr, DecidableEq, Inhabited

/-- A reader takes a value from the front of a source. -/
abbrev Reader (α : Type) := Source → Except Fault (α × Source)

/-- The source of a text. -/
def sourceOf (s : String) : Source :=
  s.toList.map some

/-- The source of a text that arrives as bytes. -/
def sourceOfBytes (bs : List UInt8) : Source :=
  Text.Utf8.decode bs

/-- The four blanks of JSON. -/
def isGap (c : Char) : Bool :=
  c = ' ' || c = '\n' || c = '\t' || c = '\r'

/-- The source from its first character that is no blank. -/
def skipBlanks : Source → Source
  | some c :: rest => if isGap c then skipBlanks rest else some c :: rest
  | src => src

/-- The rest of a literal name. -/
def keyword : List Char → Source → Except Fault Source
  | [], src => .ok src
  | _ :: _, [] => .error .ended
  | c :: cs, x :: rest => if x = some c then keyword cs rest else .error .grammar

/-! ## Quoted texts -/

/-- The value of a hexadecimal digit. -/
def hexValue? (c : Char) : Option Nat :=
  if '0' ≤ c && c ≤ '9' then some (c.toNat - 48)
  else if 'a' ≤ c && c ≤ 'f' then some (c.toNat - 87)
  else if 'A' ≤ c && c ≤ 'F' then some (c.toNat - 55)
  else none

/-- The sixteen bit unit that four hexadecimal digits spell. -/
def unit? (a b c d : Option Char) : Option Nat := do
  let a ← hexValue? (← a)
  let b ← hexValue? (← b)
  let c ← hexValue? (← c)
  let d ← hexValue? (← d)
  some (a * 4096 + b * 256 + c * 16 + d)

/-- A unit that announces a second one. -/
def isLeading (n : Nat) : Bool :=
  0xD800 ≤ n && n ≤ 0xDBFF

/-- A unit that only makes sense after a leading one. -/
def isTrailing (n : Nat) : Bool :=
  0xDC00 ≤ n && n ≤ 0xDFFF

/-- The character that two units spell together. -/
def paired (n₁ n₂ : Nat) : Char :=
  Char.ofNat (0x10000 + (n₁ - 0xD800) * 1024 + (n₂ - 0xDC00))

/-- What a short escape stands for. -/
def unescaped? (c : Char) : Option Char :=
  if c = '"' || c = '\\' || c = '/' then some c
  else if c = 'b' then some (Char.ofNat 8)
  else if c = 'f' then some (Char.ofNat 12)
  else if c = 'n' then some '\n'
  else if c = 'r' then some '\r'
  else if c = 't' then some '\t'
  else none

/-- The number of bytes that the source still has. -/
def bytesLeft (src : Source) : Nat :=
  src.foldl (fun n x => n + match x with
    | some c => (Text.Utf8.encodeChar c).length
    | none => 1) 0

/-- The fault of a `\u` escape whose four digits are not there: four bytes are looked at as digits, fewer
are the end of the text. -/
def cutEscape (src : Source) : Fault :=
  if bytesLeft src < 4 then .ended else .grammar

/-- A character that must be escaped in a quoted text. -/
def isControl : Option Char → Bool
  | some c => c.toNat < 32
  | none => false

/-- **A quoted text**, after its opening mark; `acc` holds what has been read, in reverse. -/
def textTail (acc : List (Option Char)) : Source → Except Fault (String × Source)
  | [] => .error .ended
  | some '"' :: rest =>
    match acc.reverse.mapM id with
    | some cs => .ok (String.ofList cs, rest)
    | none => .error .grammar
  | [some '\\'] => .error .ended
  | some '\\' :: some 'u' :: a :: b :: c :: d :: rest =>
    match unit? a b c d with
    | none => .error .grammar
    | some n₁ =>
      if isTrailing n₁ then .error .grammar
      else if isLeading n₁ then
        match rest with
        | [] => .error .ended
        | [some '\\'] => .error .ended
        | some '\\' :: some 'u' :: e :: f :: g :: h :: rest' =>
          match unit? e f g h with
          | none => .error .grammar
          | some n₂ =>
            if isTrailing n₂ then textTail (some (paired n₁ n₂) :: acc) rest' else .error .grammar
        | some '\\' :: some 'u' :: short => .error (cutEscape short)
        | _ => .error .grammar
      else textTail (some (Char.ofNat n₁) :: acc) rest
  | some '\\' :: some 'u' :: short => .error (cutEscape short)
  | some '\\' :: some c :: rest =>
    match unescaped? c with
    | some c' => textTail (some c' :: acc) rest
    | none => .error .grammar
  | some '\\' :: none :: _ => .error .grammar
  | x :: rest => if isControl x then .error .grammar else textTail (x :: acc) rest

/-- A character that stands for itself. -/
theorem textTail_plain {c : Char} (hmark : c ≠ '"') (hslash : c ≠ '\\') (hcontrol : ¬ c.toNat < 32)
    (acc rest : Source) : textTail acc (some c :: rest) = textTail (some c :: acc) rest := by
  have hplain : isControl (some c) = false := decide_eq_false hcontrol
  rw [textTail]
  · rw [hplain]
    rfl
  all_goals simp_all

/-- A quoted text that nobody looks at: escapes need not make sense, and bytes need not spell characters. -/
def skipText : Source → Except Fault Source
  | [] => .error .ended
  | some '"' :: rest => .ok rest
  | [some '\\'] => .error .ended
  | some '\\' :: some 'u' :: a :: b :: c :: d :: rest =>
    if (unit? a b c d).isSome then skipText rest else .error .grammar
  | some '\\' :: some 'u' :: short => .error (cutEscape short)
  | some '\\' :: some c :: rest => if (unescaped? c).isSome then skipText rest else .error .grammar
  | some '\\' :: none :: _ => .error .grammar
  | x :: rest => if isControl x then .error .grammar else skipText rest

/-! ## Lists and objects -/

/-- **The way to the next item** of a list: the source at that item, or nothing when the list closes here.
The first item follows the opening bracket, every other one a comma. -/
def nextItem (first : Bool) (src : Source) : Except Fault (Option Source) :=
  match skipBlanks src with
  | [] => .error .ended
  | some ']' :: _ => .ok none
  | some ',' :: rest =>
    if first then .ok (some (some ',' :: rest))
    else
      match skipBlanks rest with
      | [] => .error .ended
      | some ']' :: _ => .error .grammar
      | rest => .ok (some rest)
  | src => if first then .ok (some src) else .error .grammar

/-- The source after the bracket that closes a list. -/
def closeList (src : Source) : Except Fault Source :=
  match skipBlanks src with
  | [] => .error .ended
  | some ']' :: rest => .ok rest
  | _ => .error .grammar

/-- **The way to the next member** of an object: the source after the opening mark of its name, or nothing
when the object closes here. -/
def nextKey (first : Bool) (src : Source) : Except Fault (Option Source) :=
  match skipBlanks src with
  | [] => .error .ended
  | some '}' :: _ => .ok none
  | some ',' :: rest =>
    if first then .error .grammar
    else
      match skipBlanks rest with
      | [] => .error .ended
      | some '"' :: rest => .ok (some rest)
      | _ => .error .grammar
  | some '"' :: rest => if first then .ok (some rest) else .error .grammar
  | _ => .error .grammar

/-- The source after the brace that closes an object. -/
def closeObject (src : Source) : Except Fault Source :=
  match skipBlanks src with
  | [] => .error .ended
  | some '}' :: rest => .ok rest
  | _ => .error .grammar

/-- The source after the colon that follows a member's name. -/
def colon (src : Source) : Except Fault Source :=
  match skipBlanks src with
  | [] => .error .ended
  | some ':' :: rest => .ok rest
  | _ => .error .grammar

/-- The items of a list, after its opening bracket.  `fuel` bounds their number. -/
def items {α : Type} (item : Reader α) : Nat → Bool → List α → Reader (List α)
  | 0, _, _, _ => .error .ended
  | fuel + 1, first, acc, src => do
    match ← nextItem first src with
    | none => pure (acc.reverse, ← closeList src)
    | some src =>
      let (a, src) ← item src
      items item fuel false (a :: acc) src

/-- The members of an object, after its opening brace.  `member` is told what has been gathered and the
name, and reads from the colon on. -/
def members {σ : Type} (member : σ → String → Reader σ) : Nat → Bool → σ → Reader σ
  | 0, _, _, _ => .error .ended
  | fuel + 1, first, st, src => do
    match ← nextKey first src with
    | none => pure (st, ← closeObject src)
    | some src =>
      let (key, src) ← textTail [] src
      let (st, src) ← member st key src
      members member fuel false st src

end PlanBrowser.Json

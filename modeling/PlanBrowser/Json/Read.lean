import PlanBrowser.Json.Numeral
import PlanBrowser.Text.KeyMap
import PlanBrowser.Text.Numeral

/-!
# Reading JSON: values and typed readers

Readers for the shapes that messages are made of.  A reader of a scalar that meets a value of another
kind reports a fault of `shape`, but only after it has read that value, because the value itself may be no
JSON; of a list or an object it looks at the opening bracket alone.  Brackets nest at most `127` deep where
values are looked at, and without a limit where they are not.

A **record** is an object whose members have known names, or a list of the members' values in order.
Members with other names are passed over, a known name that is repeated is a fault of shape, and a member
that may be missing leaves its part of the record as it was.

* `wrongKind` — the fault of meeting a value of another kind;
* `readText`, `readFlag`, `readWord`, `readList`, `readMap`, `readValue` — the shapes;
* `skipValue` — a value that nobody looks at;
* `Field`, `readRecord` — records;
* `readAll` — a whole text.
-/

namespace PlanBrowser.Json

/-- How deep brackets may nest. -/
def maxDepth : Nat := 127

/-- **The fault of meeting a value of another kind** at the front of the source. -/
def wrongKind (src : Source) : Fault :=
  let told {α : Type} (r : Except Fault α) : Fault := match r with
    | .ok _ => .shape
    | .error f => f
  match src with
  | [] => .ended
  | some 'n' :: rest => told (keyword ['u', 'l', 'l'] rest)
  | some 't' :: rest => told (keyword ['r', 'u', 'e'] rest)
  | some 'f' :: rest => told (keyword ['a', 'l', 's', 'e'] rest)
  | some '-' :: rest => told (readNumber true rest)
  | some '"' :: rest => told (textTail [] rest)
  | some '[' :: _ | some '{' :: _ => .shape
  | x :: _ => if (digit? x).isSome then told (readNumber false src) else .grammar

/-- A text. -/
def readText : Reader String := fun src =>
  match skipBlanks src with
  | some '"' :: rest => textTail [] rest
  | src => .error (wrongKind src)

/-- A truth value. -/
def readFlag : Reader Bool := fun src =>
  match skipBlanks src with
  | some 't' :: rest => (keyword ['r', 'u', 'e'] rest).map (true, ·)
  | some 'f' :: rest => (keyword ['a', 'l', 's', 'e'] rest).map (false, ·)
  | src => .error (wrongKind src)

/-- A number that starts at the front of the source, if one does. -/
def numberHere? (src : Source) : Option (Except Fault (Number × Source)) :=
  match src with
  | some '-' :: rest => some (readNumber true rest)
  | x :: _ => if (digit? x).isSome then some (readNumber false src) else none
  | [] => none

/-- A natural number that a word holds, written as a plain integer. -/
def readWord : Reader UInt64 := fun src => do
  let src := skipBlanks src
  match numberHere? src with
  | some reading =>
    match ← reading with
    | (.natural n, src) => pure (n, src)
    | _ => throw .shape
  | none => throw (wrongKind src)

/-- A list of values of one shape; `depth` brackets may still be opened. -/
def readList {α : Type} (item : Nat → Reader α) (depth : Nat) : Reader (List α) := fun src =>
  match skipBlanks src with
  | some '[' :: rest =>
    match depth with
    | 0 => .error .grammar
    | depth + 1 => items (item depth) (rest.length + 1) true [] rest
  | src => .error (wrongKind src)

/-- A member of an object, which is put into a map under its name. -/
def readEntry {α : Type} (item : Reader α) (m : OrderedMap α) (name : String) : Reader (OrderedMap α) := fun src => do
  let (a, src) ← item (← colon src)
  pure (m.insert name a, src)

/-- An object from arbitrary names to values of one shape; the last member of a name counts. -/
def readMap {α : Type} (item : Nat → Reader α) (depth : Nat) : Reader (OrderedMap α) := fun src =>
  match skipBlanks src with
  | some '{' :: rest =>
    match depth with
    | 0 => .error .grammar
    | depth + 1 => members (readEntry (item depth)) (rest.length + 1) true .empty rest
  | src => .error (wrongKind src)

/-- **Any value**; the members of an object are sorted by name. -/
def readValue (depth : Nat) : Reader Json := fun src =>
  match skipBlanks src with
  | [] => .error .ended
  | some 'n' :: rest => (keyword ['u', 'l', 'l'] rest).map (.null, ·)
  | some 't' :: rest => (keyword ['r', 'u', 'e'] rest).map (.bool true, ·)
  | some 'f' :: rest => (keyword ['a', 'l', 's', 'e'] rest).map (.bool false, ·)
  | some '"' :: rest => (textTail [] rest).map fun (s, rest) => (.string s, rest)
  | some '[' :: rest =>
    match depth with
    | 0 => .error .grammar
    | depth + 1 =>
      (items (readValue depth) (rest.length + 1) true [] rest).map fun (vs, rest) => (.array vs, rest)
  | some '{' :: rest =>
    match depth with
    | 0 => .error .grammar
    | depth + 1 =>
      (members (readEntry (readValue depth)) (rest.length + 1) true .empty rest).map
        fun (m, rest) => (.object m.entries, rest)
  | src =>
    match numberHere? src with
    | some reading => reading.map fun (n, rest) => (.number n, rest)
    | none => .error .grammar

/-! ## Values that nobody looks at -/

/-- A bracket that is still open. -/
inductive Bracket where
  | list
  | object
  deriving DecidableEq

/-- The name of the next member of an object that nobody looks at, with its colon. -/
def skipKey (src : Source) : Except Fault Source := do
  match skipBlanks src with
  | [] => throw .ended
  | some '"' :: rest => colon (← skipText rest)
  | _ => throw .grammar

/-- Where the skipping of a nested value stands. -/
inductive SkipStep where
  /-- A value begins here. -/
  | value
  /-- A value has ended, or a bracket has just been opened when `fresh` is set. -/
  | after (fresh : Bool)

/-- A scalar that nobody looks at, or the opening of a bracket. -/
def skipHead (src : Source) : Except Fault (Option Bracket × Source) :=
  match src with
  | [] => .error .ended
  | some 'n' :: rest => (keyword ['u', 'l', 'l'] rest).map (none, ·)
  | some 't' :: rest => (keyword ['r', 'u', 'e'] rest).map (none, ·)
  | some 'f' :: rest => (keyword ['a', 'l', 's', 'e'] rest).map (none, ·)
  | some '-' :: rest => (skipNumber rest).map (none, ·)
  | some '"' :: rest => (skipText rest).map (none, ·)
  | some '[' :: rest => .ok (some .list, rest)
  | some '{' :: rest => .ok (some .object, rest)
  | x :: _ => if (digit? x).isSome then (skipNumber src).map (none, ·) else .error .grammar

/-- Passes over a value with the brackets that are open around it. -/
def skipNested : Nat → SkipStep → List Bracket → Source → Except Fault Source
  | 0, _, _, _ => .error .ended
  | fuel + 1, .value, stack, src => do
    match ← skipHead (skipBlanks src) with
    | (some b, src) => skipNested fuel (.after true) (b :: stack) src
    | (none, src) => skipNested fuel (.after false) stack src
  | _ + 1, .after _, [], src => .ok src
  | fuel + 1, .after fresh, b :: stack, src => do
    let enter (src : Source) : Except Fault Source :=
      match b with
      | .list => .ok src
      | .object => skipKey src
    match skipBlanks src, b with
    | [], _ => throw .ended
    | some ']' :: rest, .list => skipNested fuel (.after false) stack rest
    | some '}' :: rest, .object => skipNested fuel (.after false) stack rest
    | some ',' :: rest, _ =>
      if fresh then throw .grammar
      else skipNested fuel .value (b :: stack) (← enter rest)
    | src, _ =>
      if fresh then skipNested fuel .value (b :: stack) (← enter src) else throw .grammar

/-- **A value that nobody looks at.** -/
def skipValue (src : Source) : Except Fault Source :=
  skipNested (3 * src.length + 3) .value [] src

/-! ## Records -/

/-- One member of a record of type `σ`. -/
structure Field (σ : Type) where
  name : String
  /-- The record is refused without this member. -/
  required : Bool
  /-- Reads the member's value and says what it makes of the record. -/
  read : Nat → Reader (σ → σ)

/-- A member whose value is read by `r` and put into the record by `put`. -/
def field {σ α : Type} (name : String) (required : Bool) (r : Nat → Reader α) (put : α → σ → σ) :
    Field σ :=
  ⟨name, required, fun depth src => (r depth src).map fun (a, src) => (put a, src)⟩

/-- The members of a record that is given as a list, in order. -/
def readInOrder {σ : Type} (depth : Nat) : List (Field σ) → Bool → σ → Reader σ
  | [], _, st, src => do pure (st, ← closeList src)
  | f :: fs, first, st, src => do
    match ← nextItem first src with
    | none => if f.required then throw .shape else readInOrder depth fs first st src
    | some src =>
      let (put, src) ← f.read depth src
      readInOrder depth fs false (put st) src

/-- One member of a record that is given as an object. -/
def readMember {σ : Type} (fields : List (Field σ)) (depth : Nat) (st : σ × List String)
    (key : String) : Reader (σ × List String) := fun src => do
  match fields.find? fun f => f.name = key with
  | none => pure (st, ← skipValue (← colon src))
  | some f =>
    if key ∈ st.2 then throw .shape
    else
      let (put, src) ← f.read depth (← colon src)
      pure ((put st.1, key :: st.2), src)

/-- **A record** with the given members, starting from `empty`. -/
def readRecord {σ : Type} (fields : List (Field σ)) (empty : σ) (depth : Nat) : Reader σ := fun src =>
  match skipBlanks src with
  | some '[' :: rest =>
    match depth with
    | 0 => .error .grammar
    | depth + 1 => readInOrder depth fields true empty rest
  | some '{' :: rest =>
    match depth with
    | 0 => .error .grammar
    | depth + 1 => do
      let ((st, seen), src) ← members (readMember fields depth) (rest.length + 1) true (empty, []) rest
      if fields.any fun f => f.required && !seen.contains f.name then throw .shape
      else pure (st, src)
  | src => .error (wrongKind src)

/-- **A whole text**: one value and nothing after it but blanks. -/
def readAll {α : Type} (r : Nat → Reader α) (src : Source) : Except Fault α := do
  let (a, rest) ← r maxDepth src
  match skipBlanks rest with
  | [] => pure a
  | _ => throw .grammar

end PlanBrowser.Json

import PlanBrowser.Output
import PlanBrowser.Proofs.Json.Bracket

/-!
# Layouts

A value can be written without blanks, or spread over lines.  Both are **layouts**: they differ only in the blanks
between the parts.  A reader skips them, so it makes the same of a value in every layout.  It does not make the value
itself: it sorts the members of each object by name and keeps the last one of each name.

* `Json.sorted` — what a reader makes of a value;
* `Json.nesting` — how deep brackets nest in it;
* `Json.Integral` — all its numbers are integers;
* `Json.Layout`, with `Json.Layout.compact` and `Json.Layout.spread` — the two layouts.
-/

namespace PlanBrowser.Json

/-! ## What a reader makes of a value -/

mutual

/-- **The value with the members of each object in the order of their names**, one of each name. -/
def sorted : Json → Json
  | .array vs => .array (sortedItems vs)
  | .object ms => .object (KeyMap.ofEntries (sortedMembers ms))
  | .null => .null
  | .bool b => .bool b
  | .number n => .number n
  | .string s => .string s

/-- Items, each of them sorted. -/
def sortedItems : List Json → List Json
  | [] => []
  | v :: vs => sorted v :: sortedItems vs

/-- Members, each value of them sorted. -/
def sortedMembers : List (String × Json) → List (String × Json)
  | [] => []
  | m :: ms => (m.1, sorted m.2) :: sortedMembers ms

end

mutual

/-- **How deep brackets nest** in a value. -/
def nesting : Json → Nat
  | .array vs => nestingItems vs + 1
  | .object ms => nestingMembers ms + 1
  | _ => 0

/-- How deep brackets nest in some items. -/
def nestingItems : List Json → Nat
  | [] => 0
  | v :: vs => max (nesting v) (nestingItems vs)

/-- How deep brackets nest in some members. -/
def nestingMembers : List (String × Json) → Nat
  | [] => 0
  | m :: ms => max (nesting m.2) (nestingMembers ms)

end

/-- **All numbers of a value are integers.** -/
inductive Integral : Json → Prop
  | null : Integral .null
  | bool (b : Bool) : Integral (.bool b)
  | natural (n : UInt64) : Integral (.number (.natural n))
  | belowZero (k : Fin halfWord) : Integral (.number (.belowZero k))
  | string (s : String) : Integral (.string s)
  | array {vs : List Json} (h : ∀ v ∈ vs, Integral v) : Integral (.array vs)
  | object {ms : List (String × Json)} (h : ∀ m ∈ ms, Integral m.2) : Integral (.object ms)

theorem sortedItems_eq (vs : List Json) : sortedItems vs = vs.map sorted := by
  induction vs with
  | nil => rfl
  | cons v vs ih => rw [sortedItems, ih, List.map_cons]

theorem sortedMembers_eq (ms : List (String × Json)) :
    sortedMembers ms = ms.map fun m => (m.1, sorted m.2) := by
  induction ms with
  | nil => rfl
  | cons m ms ih => rw [sortedMembers, ih, List.map_cons]

theorem nesting_le_of_mem_items {v : Json} {vs : List Json} (h : v ∈ vs) : v.nesting ≤ nestingItems vs := by
  induction h with
  | head vs => exact Nat.le_max_left _ _
  | tail _ _ ih => exact Nat.le_trans ih (Nat.le_max_right _ _)

theorem nesting_le_of_mem_members {m : String × Json} {ms : List (String × Json)} (h : m ∈ ms) :
    m.2.nesting ≤ nestingMembers ms := by
  induction h with
  | head ms => exact Nat.le_max_left _ _
  | tail _ _ ih => exact Nat.le_trans ih (Nat.le_max_right _ _)

/-! ## Layouts -/

/-- **A layout**: how a value is written at an indentation level.  Its parts are the same in every layout, and what
stands between them are blanks. -/
structure Layout where
  write : Nat → Json → List Char
  /-- What stands in front of each item and each member of a level, and of the closing bracket. -/
  line : Nat → List Char
  /-- What stands after a colon. -/
  space : List Char
  gaps_line : ∀ level, Gaps (line level)
  gaps_space : Gaps space
  write_null : ∀ level, write level .null = ['n', 'u', 'l', 'l']
  write_true : ∀ level, write level (.bool true) = ['t', 'r', 'u', 'e']
  write_false : ∀ level, write level (.bool false) = ['f', 'a', 'l', 's', 'e']
  write_number : ∀ level n, write level (.number n) = n.digits
  write_string : ∀ level s, write level (.string s) = quoted s
  write_array : ∀ level vs, write level (.array vs) =
    '[' :: (bracketed (line (level + 1)) (line level) (vs.map (write (level + 1))) ++ [']'])
  write_object : ∀ level ms, write level (.object ms) =
    '{' :: (bracketed (line (level + 1)) (line level)
      (ms.map fun m => quoted m.1 ++ ':' :: (space ++ write (level + 1) m.2)) ++ ['}'])

theorem compactItems_eq (vs : List Json) : compactItems vs = listed [] false (vs.map compact) := by
  induction vs with
  | nil => rfl
  | cons v vs ih =>
    rw [compactItems, ih]
    rfl

theorem compactMembers_eq (ms : List (String × Json)) :
    compactMembers ms = listed [] false (ms.map fun m => quoted m.1 ++ ':' :: ([] ++ compact m.2)) := by
  induction ms with
  | nil => rfl
  | cons m ms ih =>
    rw [compactMembers, ih]
    simp only [List.map_cons, listed, comma, List.nil_append, List.cons_append, List.append_assoc]
    rfl

theorem spreadItems_eq (level : Nat) (vs : List Json) :
    spreadItems level vs = listed (freshLine (level + 1)) false (vs.map (spreadAt (level + 1))) := by
  induction vs with
  | nil => rfl
  | cons v vs ih =>
    rw [spreadItems, ih]
    simp only [List.map_cons, listed, comma, List.cons_append, List.append_assoc]
    rfl

theorem spreadMembers_eq (level : Nat) (ms : List (String × Json)) :
    spreadMembers level ms = listed (freshLine (level + 1)) false
      (ms.map fun m => quoted m.1 ++ ':' :: ([' '] ++ spreadAt (level + 1) m.2)) := by
  induction ms with
  | nil => rfl
  | cons m ms ih =>
    rw [spreadMembers, ih]
    simp only [List.map_cons, listed, comma, List.cons_append, List.nil_append, List.append_assoc]
    rfl

namespace Layout

/-- **The layout without blanks.** -/
def compact : Layout where
  write _ := Json.compact
  line _ := []
  space := []
  gaps_line _ := gaps_nil
  gaps_space := gaps_nil
  write_null _ := rfl
  write_true _ := rfl
  write_false _ := rfl
  write_number _ _ := rfl
  write_string _ _ := rfl
  write_array _ vs := by
    cases vs with
    | nil => rfl
    | cons v vs =>
      rw [Json.compact, compactItems_eq]
      simp [bracketed, listed, comma]
  write_object _ ms := by
    cases ms with
    | nil => rfl
    | cons m ms =>
      rw [Json.compact, compactMembers_eq]
      simp [bracketed, listed, comma]

theorem gaps_freshLine (level : Nat) : Gaps (freshLine level) := by
  intro c hc
  rcases List.mem_cons.mp hc with rfl | hblank
  · rfl
  · rw [List.eq_of_mem_replicate hblank]
    rfl

/-- **The layout on many lines.** -/
def spread : Layout where
  write := spreadAt
  line := freshLine
  space := [' ']
  gaps_line := gaps_freshLine
  gaps_space := by
    intro c hc
    rw [List.mem_singleton.mp hc]
    rfl
  write_null _ := rfl
  write_true _ := rfl
  write_false _ := rfl
  write_number _ _ := rfl
  write_string _ _ := rfl
  write_array level vs := by
    cases vs with
    | nil => rfl
    | cons v vs =>
      rw [spreadAt, spreadItems_eq]
      simp [bracketed, listed, comma]
  write_object level ms := by
    cases ms with
    | nil => rfl
    | cons m ms =>
      rw [spreadAt, spreadMembers_eq]
      simp [bracketed, listed, comma]

end Layout

end PlanBrowser.Json

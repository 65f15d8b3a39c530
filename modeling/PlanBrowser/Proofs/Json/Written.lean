import PlanBrowser.Text.KeyMap
import PlanBrowser.Proofs.Json.Bracket
import PlanBrowser.Proofs.Json.Quoted

/-!
# JSON values as they are written

A reader keeps less of a value than a text says: it sorts the members of an object, drops all but the last one of a name,
and turns numerals into numbers.  Here is the value as a text says it, with the members in their order and repeated names
kept, and every number as its numeral.

One value has many texts.  Blanks may stand around every part, and a quoted text may be spelled in several ways.  `Spells`
relates a value to all of its texts.

* `Json.Written` — a value as it is written, with `nesting` and `value?`, what a reader makes of it;
* `Json.Spells`, `Json.SpellsDocument` — the texts of a value;
* `Json.Written.spells_compact` — **every value has a text**.
-/

namespace PlanBrowser.Json

/-! ## Values -/

/-- **A JSON value as it is written.** -/
inductive Written where
  | null
  | bool (b : Bool)
  | number (x : Numeral)
  | string (s : String)
  | list (vs : List Written)
  | object (ms : List (String × Written))

namespace Written

mutual

/-- How deep brackets nest in a value. -/
def nesting : Written → Nat
  | .list vs => nestingItems vs + 1
  | .object ms => nestingMembers ms + 1
  | _ => 0

/-- How deep brackets nest in some items. -/
def nestingItems : List Written → Nat
  | [] => 0
  | v :: vs => max (nesting v) (nestingItems vs)

/-- How deep brackets nest in some members. -/
def nestingMembers : List (String × Written) → Nat
  | [] => 0
  | m :: ms => max (nesting m.2) (nestingMembers ms)

end

mutual

/-- **What a reader makes of a value**: the members of each object in the order of their names, the last one of each name,
and numbers for numerals.  It is nothing if a numeral exceeds every double. -/
def value? : Written → Option Json
  | .null => some .null
  | .bool b => some (.bool b)
  | .number x => x.number.toOption.map .number
  | .string s => some (.string s)
  | .list vs => (values? vs).map .array
  | .object ms => (entries? ms).map fun es => .object (KeyMap.ofEntries es)

/-- What a reader makes of items. -/
def values? : List Written → Option (List Json)
  | [] => some []
  | v :: vs => do some ((← value? v) :: (← values? vs))

/-- What a reader makes of members, in the order in which they are written. -/
def entries? : List (String × Written) → Option (List (String × Json))
  | [] => some []
  | m :: ms => do some ((m.1, ← value? m.2) :: (← entries? ms))

end

mutual

/-- A text of a value, without blanks. -/
def compact : Written → List Char
  | .null => ['n', 'u', 'l', 'l']
  | .bool true => ['t', 'r', 'u', 'e']
  | .bool false => ['f', 'a', 'l', 's', 'e']
  | .number x => x.text
  | .string s => quoted s
  | .list vs => '[' :: (listed [] true (compactItems vs) ++ [']'])
  | .object ms => '{' :: (listed [] true (compactMembers ms) ++ ['}'])

/-- The texts of items. -/
def compactItems : List Written → List (List Char)
  | [] => []
  | v :: vs => compact v :: compactItems vs

/-- The texts of members. -/
def compactMembers : List (String × Written) → List (List Char)
  | [] => []
  | m :: ms => (quoted m.1 ++ ':' :: compact m.2) :: compactMembers ms

end

/-- A text is read of a text only. -/
theorem value?_eq_string {v : Written} {s : String} : v.value? = some (.string s) ↔ v = .string s := by
  cases v <;> simp [value?]

/-- A number is read of a numeral only. -/
theorem value?_eq_number {v : Written} {n : Number} :
    v.value? = some (.number n) ↔ ∃ x, v = .number x ∧ x.number = .ok n := by
  cases v with
  | number x => cases hx : x.number <;> simp [value?, hx, Except.toOption]
  | _ => simp [value?]

end Written

/-! ## Texts -/

/-- An item of a list as it is written, between blanks. -/
structure Part where
  before : List Char
  word : List Char
  after : List Char
  value : Written
  gaps_before : Gaps before
  gaps_after : Gaps after

/-- The text of an item. -/
def Part.text (p : Part) : List Char :=
  p.before ++ (p.word ++ p.after)

/-- A member of an object as it is written: its name, a colon and its value, all of them between blanks. -/
structure Entry extends Part where
  lead : List Char
  name : String
  /-- The characters of the name, written. -/
  marked : List Char
  between : List Char
  gaps_lead : Gaps lead
  spells_name : SpellsText marked name.toList
  gaps_between : Gaps between

/-- The text of a member. -/
def Entry.text (e : Entry) : List Char :=
  e.lead ++ ('"' :: (e.marked ++ '"' :: (e.between ++ ':' :: e.toPart.text)))

/-- The member that is written. -/
def Entry.member (e : Entry) : String × Written :=
  (e.name, e.value)

/-- **The texts of a value**, without blanks around it. -/
inductive Spells : List Char → Written → Prop
  | null : Spells ['n', 'u', 'l', 'l'] .null
  | true : Spells ['t', 'r', 'u', 'e'] (.bool true)
  | false : Spells ['f', 'a', 'l', 's', 'e'] (.bool false)
  | number (x : Numeral) : Spells x.text (.number x)
  | string {cs : List Char} {s : String} (h : SpellsText cs s.toList) : Spells ('"' :: (cs ++ ['"'])) (.string s)
  | list {parts : List Part} {gap : List Char} (hgap : Gaps gap) (h : ∀ p ∈ parts, Spells p.word p.value) :
      Spells ('[' :: (listed [] true (parts.map Part.text) ++ gap ++ [']'])) (.list (parts.map Part.value))
  | object {entries : List Entry} {gap : List Char} (hgap : Gaps gap) (h : ∀ e ∈ entries, Spells e.word e.value) :
      Spells ('{' :: (listed [] true (entries.map Entry.text) ++ gap ++ ['}'])) (.object (entries.map Entry.member))

/-- **The whole texts of a value**: there may be blanks before and after it. -/
def SpellsDocument (cs : List Char) (v : Written) : Prop :=
  ∃ before word after, cs = before ++ (word ++ after) ∧ Gaps before ∧ Gaps after ∧ Spells word v

/-! ## Every value has a text -/

/-- An item without blanks. -/
def Part.bare (v : Written) : Part :=
  ⟨[], v.compact, [], v, gaps_nil, gaps_nil⟩

/-- A member without blanks. -/
def Entry.bare (m : String × Written) : Entry where
  toPart := .bare m.2
  lead := []
  name := m.1
  marked := m.1.toList.flatMap escaped
  between := []
  gaps_lead := gaps_nil
  spells_name := .flatMap_escaped m.1.toList
  gaps_between := gaps_nil

theorem Part.text_bare (v : Written) : (Part.bare v).text = v.compact :=
  List.append_nil _

theorem Entry.text_bare (m : String × Written) : (Entry.bare m).text = quoted m.1 ++ ':' :: m.2.compact := by
  show '"' :: (m.1.toList.flatMap escaped ++ '"' :: ':' :: (Part.bare m.2).text) = _
  rw [Part.text_bare, quoted, List.cons_append, List.cons_append, List.append_assoc]
  rfl

namespace Written

theorem compactItems_eq (vs : List Written) : compactItems vs = vs.map compact := by
  induction vs with
  | nil => rfl
  | cons v vs ih => rw [compactItems, ih, List.map_cons]

theorem compactMembers_eq (ms : List (String × Written)) :
    compactMembers ms = ms.map fun m => quoted m.1 ++ ':' :: compact m.2 := by
  induction ms with
  | nil => rfl
  | cons m ms ih => rw [compactMembers, ih, List.map_cons]

theorem spells_list {vs : List Written} (h : ∀ v ∈ vs, Spells v.compact v) :
    Spells (compact (.list vs)) (.list vs) := by
  have hparts : ∀ p ∈ vs.map Part.bare, Spells p.word p.value := by
    rw [List.forall_mem_map]
    exact h
  have htext : (vs.map Part.bare).map Part.text = vs.map compact := by
    rw [List.map_map]
    exact List.map_congr_left fun v _ => Part.text_bare v
  have hvalue : (vs.map Part.bare).map Part.value = vs := by
    rw [List.map_map]
    exact List.map_id vs
  have hspells := Spells.list gaps_nil hparts
  rw [htext, hvalue, List.append_nil] at hspells
  rw [compact, compactItems_eq]
  exact hspells

theorem spells_object {ms : List (String × Written)} (h : ∀ m ∈ ms, Spells m.2.compact m.2) :
    Spells (compact (.object ms)) (.object ms) := by
  have hentries : ∀ e ∈ ms.map Entry.bare, Spells e.word e.value := by
    rw [List.forall_mem_map]
    exact h
  have htext : (ms.map Entry.bare).map Entry.text = ms.map fun m => quoted m.1 ++ ':' :: compact m.2 := by
    rw [List.map_map]
    exact List.map_congr_left fun m _ => Entry.text_bare m
  have hmember : (ms.map Entry.bare).map Entry.member = ms := by
    rw [List.map_map]
    exact List.map_id ms
  have hspells := Spells.object gaps_nil hentries
  rw [htext, hmember, List.append_nil] at hspells
  rw [compact, compactMembers_eq]
  exact hspells

mutual

/-- **Every value has a text.** -/
theorem spells_compact : ∀ v : Written, Spells v.compact v
  | .null => .null
  | .bool true => .true
  | .bool false => .false
  | .number x => .number x
  | .string s => .string (.flatMap_escaped s.toList)
  | .list vs => spells_list (spells_compact_items vs)
  | .object ms => spells_object (spells_compact_members ms)

theorem spells_compact_items : ∀ vs : List Written, ∀ v ∈ vs, Spells v.compact v
  | [] => List.forall_mem_nil _
  | v :: vs => List.forall_mem_cons.mpr ⟨spells_compact v, spells_compact_items vs⟩

theorem spells_compact_members : ∀ ms : List (String × Written), ∀ m ∈ ms, Spells m.2.compact m.2
  | [] => List.forall_mem_nil _
  | m :: ms => List.forall_mem_cons.mpr ⟨spells_compact m.2, spells_compact_members ms⟩

end

theorem spellsDocument_compact (v : Written) : SpellsDocument v.compact v :=
  ⟨[], v.compact, [], by simp, gaps_nil, gaps_nil, v.spells_compact⟩

end Written

end PlanBrowser.Json

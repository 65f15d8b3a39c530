import PlanBrowser.Proofs.Json.Follow
import PlanBrowser.Proofs.Json.Layout

/-!
# Written values are read back

In every layout the text of a value is one of the texts of that value, so a reader makes of it what it makes of the value:
the value with its members sorted.

Numbers are read back if they are integers.  A double is written with the fewest digits that stand for it, and is rounded
twice when it is read; so values with doubles are left out.

* `Json.written` — a value as its texts say it;
* `Json.Layout.spells_write` — **a value is spelled in every layout**;
* `Json.value?_written`, `Json.nesting_written` — what a reader makes of it, and how deep its brackets nest;
* `Json.readAll_document` — **the spread text is read back** as a whole.
-/

namespace PlanBrowser.Json

/-! ## Written values -/

/-- An integer as a numeral.  A double has many numerals, and here it has none of its own. -/
def Number.numeral : Number → Numeral
  | .natural n => .plain n.toNat
  | .belowZero k => ⟨true, k.val + 1, none, none⟩
  | .real _ => .plain 0

mutual

/-- **A value as its texts say it**, if its numbers are integers. -/
def written : Json → Written
  | .null => .null
  | .bool b => .bool b
  | .number n => .number n.numeral
  | .string s => .string s
  | .array vs => .list (writtenItems vs)
  | .object ms => .object (writtenMembers ms)

/-- Items as they are written. -/
def writtenItems : List Json → List Written
  | [] => []
  | v :: vs => written v :: writtenItems vs

/-- Members as they are written. -/
def writtenMembers : List (String × Json) → List (String × Written)
  | [] => []
  | m :: ms => (m.1, written m.2) :: writtenMembers ms

end

theorem writtenItems_eq (vs : List Json) : writtenItems vs = vs.map written := by
  induction vs with
  | nil => rfl
  | cons v vs ih => rw [writtenItems, ih, List.map_cons]

theorem writtenMembers_eq (ms : List (String × Json)) :
    writtenMembers ms = ms.map fun m => (m.1, written m.2) := by
  induction ms with
  | nil => rfl
  | cons m ms ih => rw [writtenMembers, ih, List.map_cons]

/-- An integer is written as its numeral. -/
theorem text_numeral_natural (n : UInt64) : (Number.natural n).numeral.text = (Number.natural n).digits := by
  simp [Number.numeral, Numeral.text, Numeral.plain, Numeral.unsigned, Numeral.fractionText, Numeral.exponentText,
    Number.digits]

theorem text_numeral_belowZero (k : Fin halfWord) :
    (Number.belowZero k).numeral.text = (Number.belowZero k).digits := by
  simp [Number.numeral, Numeral.text, Numeral.unsigned, Numeral.fractionText, Numeral.exponentText, Number.digits]

/-! ## Texts -/

/-- The blanks in front of an item may be taken for a part of it. -/
theorem listed_inner (inner : List Char) (first : Bool) (ws : List (List Char)) :
    listed inner first ws = listed [] first (ws.map fun w => inner ++ w) := by
  induction ws generalizing first with
  | nil => rfl
  | cons w ws ih => rw [listed, ih, List.map_cons, listed, List.nil_append]

/-- What stands between brackets is listed, with blanks in front of the closing one. -/
theorem bracketed_eq_listed (inner : List Char) {outer : List Char} (houter : Gaps outer) (ws : List (List Char)) :
    ∃ gap, Gaps gap ∧ bracketed inner outer ws = listed [] true (ws.map fun w => inner ++ w) ++ gap := by
  cases ws with
  | nil => exact ⟨[], gaps_nil, rfl⟩
  | cons w ws => exact ⟨outer, houter, by rw [bracketed, listed_inner]⟩

namespace Layout

/-- An item as a layout writes it. -/
def part (l : Layout) (level : Nat) (v : Json) : Part :=
  ⟨l.line level, l.write level v, [], v.written, l.gaps_line level, gaps_nil⟩

/-- A member as a layout writes it. -/
def entry (l : Layout) (level : Nat) (m : String × Json) : Entry where
  toPart := ⟨l.space, l.write level m.2, [], m.2.written, l.gaps_space, gaps_nil⟩
  lead := l.line level
  name := m.1
  marked := m.1.toList.flatMap escaped
  between := []
  gaps_lead := l.gaps_line level
  spells_name := .flatMap_escaped m.1.toList
  gaps_between := gaps_nil

theorem text_part (l : Layout) (level : Nat) (v : Json) : (l.part level v).text = l.line level ++ l.write level v := by
  simp [part, Part.text]

theorem text_entry (l : Layout) (level : Nat) (m : String × Json) :
    (l.entry level m).text = l.line level ++ (quoted m.1 ++ ':' :: (l.space ++ l.write level m.2)) := by
  simp [entry, Entry.text, Part.text, quoted]

/-- A list is spelled if its items are. -/
theorem spells_array (l : Layout) {level : Nat} {vs : List Json}
    (h : ∀ v ∈ vs, Spells (l.write (level + 1) v) v.written) :
    Spells (l.write level (.array vs)) (Json.array vs).written := by
  obtain ⟨gap, hgap, htext⟩ := bracketed_eq_listed (l.line (level + 1)) (l.gaps_line level)
    (vs.map (l.write (level + 1)))
  have hparts : ∀ p ∈ vs.map (l.part (level + 1)), Spells p.word p.value := List.forall_mem_map.mpr h
  have htexts : (vs.map (l.part (level + 1))).map Part.text =
      (vs.map (l.write (level + 1))).map fun w => l.line (level + 1) ++ w := by
    rw [List.map_map, List.map_map]
    exact List.map_congr_left fun v _ => l.text_part (level + 1) v
  have hvalues : (vs.map (l.part (level + 1))).map Part.value = vs.map written := List.map_map
  rw [l.write_array, htext, ← htexts, written, writtenItems_eq, ← hvalues]
  exact Spells.list hgap hparts

/-- An object is spelled if the values of its members are. -/
theorem spells_object (l : Layout) {level : Nat} {ms : List (String × Json)}
    (h : ∀ m ∈ ms, Spells (l.write (level + 1) m.2) m.2.written) :
    Spells (l.write level (.object ms)) (Json.object ms).written := by
  obtain ⟨gap, hgap, htext⟩ := bracketed_eq_listed (l.line (level + 1)) (l.gaps_line level)
    (ms.map fun m => quoted m.1 ++ ':' :: (l.space ++ l.write (level + 1) m.2))
  have hentries : ∀ e ∈ ms.map (l.entry (level + 1)), Spells e.word e.value := List.forall_mem_map.mpr h
  have htexts : (ms.map (l.entry (level + 1))).map Entry.text =
      (ms.map fun m => quoted m.1 ++ ':' :: (l.space ++ l.write (level + 1) m.2)).map
        fun w => l.line (level + 1) ++ w := by
    rw [List.map_map, List.map_map]
    exact List.map_congr_left fun m _ => l.text_entry (level + 1) m
  have hmembers : (ms.map (l.entry (level + 1))).map Entry.member = ms.map fun m => (m.1, m.2.written) := List.map_map
  rw [l.write_object, htext, ← htexts, written, writtenMembers_eq, ← hmembers]
  exact Spells.object hgap hentries

/-- **A value is spelled in every layout.** -/
theorem spells_write (l : Layout) {v : Json} (h : v.Integral) (level : Nat) : Spells (l.write level v) v.written := by
  induction h generalizing level with
  | null =>
    rw [l.write_null]
    exact .null
  | bool b =>
    cases b with
    | true =>
      rw [l.write_true]
      exact .true
    | false =>
      rw [l.write_false]
      exact .false
  | natural n =>
    rw [l.write_number, ← text_numeral_natural]
    exact .number _
  | belowZero k =>
    rw [l.write_number, ← text_numeral_belowZero]
    exact .number _
  | string s =>
    rw [l.write_string]
    exact .string (.flatMap_escaped s.toList)
  | array _ ih => exact l.spells_array fun v hv => ih v hv (level + 1)
  | object _ ih => exact l.spells_object fun m hm => ih m hm (level + 1)

end Layout

theorem spellsDocument_text {v : Json} (h : v.Integral) : SpellsDocument v.text.toList v.written := by
  rw [text, String.toList_ofList]
  exact ⟨[], _, [], (List.append_nil _).symm, gaps_nil, gaps_nil, Layout.compact.spells_write h 0⟩

/-- The spread text ends with a newline. -/
theorem spellsDocument_document {v : Json} (h : v.Integral) : SpellsDocument v.document.toList v.written := by
  have hend : Gaps ['\n'] := List.forall_mem_singleton.mpr rfl
  have hdocument : v.document.toList = v.spreadAt 0 ++ ['\n'] := by simp [document, Json.spread]
  rw [hdocument]
  exact ⟨[], _, ['\n'], rfl, gaps_nil, hend, Layout.spread.spells_write h 0⟩

/-! ## What a reader makes of a written value -/

theorem number_numeral_natural (n : UInt64) : (Number.natural n).numeral.number = .ok (.natural n) :=
  (Numeral.number_eq_natural_iff _ n).mpr rfl

theorem number_numeral_belowZero (k : Fin halfWord) :
    (Number.belowZero k).numeral.number = .ok (.belowZero k) := by
  have hk : k.val + 1 < Text.wordBound := Nat.lt_of_le_of_lt k.isLt (by decide)
  rw [Numeral.number]
  simp only [Number.numeral, absorb_whole hk, and_self, if_true, Number.ofInteger_belowZero]

theorem values?_written {vs : List Json} (h : ∀ v ∈ vs, v.written.value? = some v.sorted) :
    Written.values? (writtenItems vs) = some (sortedItems vs) := by
  induction vs with
  | nil => rfl
  | cons v vs ih =>
    rw [List.forall_mem_cons] at h
    rw [writtenItems, Written.values?, h.1, ih h.2, sortedItems]
    rfl

theorem entries?_written {ms : List (String × Json)} (h : ∀ m ∈ ms, m.2.written.value? = some m.2.sorted) :
    Written.entries? (writtenMembers ms) = some (sortedMembers ms) := by
  induction ms with
  | nil => rfl
  | cons m ms ih =>
    rw [List.forall_mem_cons] at h
    rw [writtenMembers, Written.entries?, h.1, ih h.2, sortedMembers]
    rfl

/-- **A reader makes the sorted value of what is written.** -/
theorem value?_written {v : Json} (h : v.Integral) : v.written.value? = some v.sorted := by
  induction h with
  | null => rfl
  | bool b => rfl
  | natural n =>
    rw [written, Written.value?, number_numeral_natural]
    rfl
  | belowZero k =>
    rw [written, Written.value?, number_numeral_belowZero]
    rfl
  | string s => rfl
  | array _ ih =>
    rw [written, Written.value?, values?_written ih]
    rfl
  | object _ ih =>
    rw [written, Written.value?, entries?_written ih]
    rfl

mutual

theorem nesting_written : ∀ v : Json, v.written.nesting = v.nesting
  | .null => rfl
  | .bool _ => rfl
  | .number _ => rfl
  | .string _ => rfl
  | .array vs => congrArg (· + 1) (nesting_writtenItems vs)
  | .object ms => congrArg (· + 1) (nesting_writtenMembers ms)

theorem nesting_writtenItems : ∀ vs : List Json, Written.nestingItems (writtenItems vs) = nestingItems vs
  | [] => rfl
  | v :: vs => congrArg₂ max (nesting_written v) (nesting_writtenItems vs)

theorem nesting_writtenMembers :
    ∀ ms : List (String × Json), Written.nestingMembers (writtenMembers ms) = nestingMembers ms
  | [] => rfl
  | m :: ms => congrArg₂ max (nesting_written m.2) (nesting_writtenMembers ms)

end

/-- A reader makes the sorted value of what is written, if brackets may nest as deep as the value does. -/
theorem isValue_sorted {v : Json} (h : v.Integral) {depth : Nat} (hdepth : v.nesting ≤ depth) :
    IsValue depth v.written v.sorted :=
  ⟨(nesting_written v).symm ▸ hdepth, value?_written h⟩

/-- **The spread text of a value is read back**, with the newline after it, if brackets may nest as deep as the value
does. -/
theorem readAll_document {v : Json} (h : v.Integral) {depth : Nat} (hdepth : v.nesting ≤ depth) :
    readAll (fun _ => readValue depth) (sourceOf v.document) = .ok v.sorted :=
  ((reads_value depth).readAll (spellsDocument_document h) _).mpr (isValue_sorted h hdepth)

end PlanBrowser.Json

import PlanBrowser.Proofs.Json.Record

/-!
# The member of a name

A text may give an object several members of one name.  A reader keeps the last one of them, so whoever asks an object
for the member of a name gets what a reader makes of the last value that is written under it.

* `KeyMap.find?_ofEntries` — the last entry of a key counts;
* `Json.Written.lastOf?` — the last value that is written under a name;
* `Json.Written.member?_of_value?` — **the member of a name** in what is read.
-/

namespace PlanBrowser

namespace KeyMap

variable {α : Type}

theorem find?_eq_map (key : String) (m : List (String × α)) :
    find? key m = (m.find? fun e => e.1 = key).map (·.2) := by
  induction m with
  | nil => rfl
  | cons e rest ih =>
    obtain ⟨k, v⟩ := e
    rw [find?, List.find?_cons, ih]
    by_cases h : k = key
    · simp [h]
    · simp [h, Ne.symm h]

/-- **The last entry of a key counts.** -/
theorem find?_ofEntries (key : String) (es : List (String × α)) :
    find? key (ofEntries es) = ((es.filter fun e => e.1 = key).map (·.2)).getLast? := by
  -- entries are put in one after the other, so an entry may come after others of its key
  have hfold (m : List (String × α)) :
      find? key (es.foldl (fun m e => insert e.1 e.2 m) m) =
        (((es.filter fun e => e.1 = key).map (·.2)).getLast?).or (find? key m) := by
    induction es generalizing m with
    | nil => rfl
    | cons e es ih =>
      rw [List.foldl_cons, ih, find?_insert, List.filter_cons]
      by_cases h : e.1 = key
      · rw [if_pos h, if_pos (decide_eq_true h), List.map_cons, List.getLast?_cons]
        cases ((es.filter fun e => e.1 = key).map (·.2)).getLast? <;> rfl
      · rw [if_neg h, if_neg (by simpa using h)]
  rw [ofEntries, hfold]
  exact Option.or_none

end KeyMap

namespace Json.Written

/-- **The last value** that is written under a name. -/
def lastOf? (name : String) (ms : List (String × Written)) : Option Written :=
  (valuesOf name ms).getLast?

/-- What a reader makes of the members of a name. -/
theorem values_of_entries {name : String} {ms : List (String × Written)} {es : List (String × Json)}
    (h : entries? ms = some es) :
    values? (valuesOf name ms) = some ((es.filter fun e => e.1 = name).map (·.2)) := by
  induction ms generalizing es with
  | nil =>
    cases h
    rfl
  | cons m ms ih =>
    simp only [entries?, Option.bind_eq_bind, Option.bind_eq_some_iff] at h
    obtain ⟨j, hj, es', hes', heq⟩ := h
    cases heq
    rw [valuesOf_cons, List.filter_cons]
    by_cases hname : m.1 = name
    · rw [if_pos hname, if_pos (decide_eq_true hname), values?, hj, ih hes']
      rfl
    · rw [if_neg hname, if_neg (by simpa using hname), ih hes']

/-- The last of some items. -/
theorem getLast?_of_values? {vs : List Written} {js : List Json} (h : values? vs = some js) :
    js.getLast? = vs.getLast?.bind value? := by
  induction vs generalizing js with
  | nil =>
    cases h
    rfl
  | cons v vs ih =>
    simp only [values?, Option.bind_eq_bind, Option.bind_eq_some_iff] at h
    obtain ⟨j, hj, js', hjs', heq⟩ := h
    cases heq
    have hlast := ih hjs'
    cases vs with
    | nil =>
      cases hjs'
      exact hj.symm
    | cons w ws =>
      simp only [values?, Option.bind_eq_bind, Option.bind_eq_some_iff] at hjs'
      obtain ⟨k, -, ks, -, heq⟩ := hjs'
      cases heq
      rw [List.getLast?_cons_cons, List.getLast?_cons_cons, hlast]

/-- **The member of a name** in what is read: what a reader makes of the last value that is written under it. -/
theorem member?_of_value? {ms : List (String × Written)} {j : Json} (h : (Written.object ms).value? = some j)
    (name : String) : j.member? name = (lastOf? name ms).bind value? := by
  obtain ⟨es, hes, rfl⟩ := Option.map_eq_some_iff.mp h
  show ((KeyMap.ofEntries es).find? fun m => m.1 = name).map (·.2) = _
  rw [← KeyMap.find?_eq_map, KeyMap.find?_ofEntries, lastOf?]
  exact getLast?_of_values? (values_of_entries hes)

end Json.Written

end PlanBrowser

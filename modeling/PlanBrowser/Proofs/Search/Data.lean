import PlanBrowser.Proofs.Url.Form
import PlanBrowser.Search

/-!
# What a data URL asks for

The data URL of a search is its page URL with other parameters.  They are written and read again as they are, so what
the server is asked for can be told from the parameters of the page: all that have nothing to do with the number of
plans or with the form of the answer are passed on, in their order, with the keys and the values that they have.

* `Url.parameters_withParameters` — a URL has the parameters that it is given;
* `Search.keptParameters`, `Search.addedParameters` — the parameters of a data URL, apart from its last one;
* `Search.filter_dataParameters` — **what is passed on** unchanged;
* `Search.dataParameters_dataParameters` — a number that is asked for again replaces the one before;
* `Search.data_url_passes_on` — **the data URL**, parameter by parameter and part by part.
-/

namespace PlanBrowser

/-- **A URL has the parameters that it is given.** -/
theorem Url.parameters_withParameters (u : Url) (ps : List Url.Parameter) :
    (u.withParameters ps).parameters = ps := by
  show readParameters (String.ofList (writeParameters ps)).toList = ps
  rw [String.toList_ofList, readParameters_writeParameters]

namespace Search

open Url (Parameter)

/-! ## The parts of the parameters -/

/-- The parameters of the page that are passed on, with the number of plans overridden. -/
def keptParameters (count : Option Nat) (ps : List Parameter) : List Parameter :=
  (ps.filter (·.1 ≠ dataKey)).map (override count)

/-- The number of plans, if the page has no place for it. -/
def addedParameters (count : Option Nat) (ps : List Parameter) : List Parameter :=
  match count with
  | some n => if ps.any (·.1 = countKey) then [] else [countParameter n]
  | none => []

theorem dataParameters_eq (count : Option Nat) (ps : List Parameter) :
    dataParameters count ps = keptParameters count ps ++ addedParameters count ps ++ [(dataKey, "true")] :=
  rfl

theorem override_of_ne {p : Parameter} (h : p.1 ≠ countKey) (count : Option Nat) : override count p = p := by
  cases count with
  | none => rfl
  | some n => exact if_neg h

theorem fst_override (count : Option Nat) (p : Parameter) : (override count p).1 = p.1 := by
  by_cases h : p.1 = countKey
  · cases count with
    | none => rfl
    | some n =>
      show (if p.1 = countKey then countParameter n else p).1 = p.1
      rw [if_pos h]
      exact h.symm
  · rw [override_of_ne h]

/-- The later number counts. -/
theorem override_override (count : Option Nat) (n : Nat) (p : Parameter) :
    override (some n) (override count p) = override (some n) p := by
  by_cases h : p.1 = countKey
  · have h' : (override count p).1 = countKey := (fst_override count p).trans h
    exact (if_pos h').trans (if_pos h).symm
  · rw [override_of_ne h count]

theorem mem_keptParameters_ne {count : Option Nat} {ps : List Parameter} {p : Parameter}
    (h : p ∈ keptParameters count ps) : p.1 ≠ dataKey := by
  obtain ⟨q, hq, rfl⟩ := List.mem_map.mp h
  rw [fst_override]
  exact of_decide_eq_true (List.mem_filter.mp hq).2

theorem mem_addedParameters {count : Option Nat} {ps : List Parameter} {p : Parameter}
    (h : p ∈ addedParameters count ps) : p.1 = countKey := by
  cases count with
  | none => cases h
  | some n =>
    rw [addedParameters] at h
    split at h
    · cases h
    · rw [List.mem_singleton] at h
      rw [h]
      rfl

/-! ## What is passed on -/

theorem filter_map_override {keep : Parameter → Bool} (hcount : ∀ p, p.1 = countKey → keep p = false)
    (count : Option Nat) (ps : List Parameter) : (ps.map (override count)).filter keep = ps.filter keep := by
  induction ps with
  | nil => rfl
  | cons p ps ih =>
    by_cases h : p.1 = countKey
    · have hp : keep p = false := hcount p h
      have hp' : keep (override count p) = false := hcount _ ((fst_override count p).trans h)
      simp [hp, hp', ih]
    · rw [List.map_cons, override_of_ne h, List.filter_cons, List.filter_cons, ih]

/-- **What is passed on**: everything that is no number of plans and does not ask for data. -/
theorem filter_dataParameters {keep : Parameter → Bool} (hcount : ∀ p, p.1 = countKey → keep p = false)
    (hdata : ∀ p, p.1 = dataKey → keep p = false) (count : Option Nat) (ps : List Parameter) :
    (dataParameters count ps).filter keep = ps.filter keep := by
  have hkept : (keptParameters count ps).filter keep = ps.filter keep := by
    rw [keptParameters, filter_map_override hcount, List.filter_filter]
    apply List.filter_congr
    intro p _
    by_cases h : p.1 = dataKey
    · simp [hdata p h]
    · simp [h]
  have hadded : (addedParameters count ps).filter keep = [] := by
    rw [List.filter_eq_nil_iff]
    intro p hp
    simp [hcount p (mem_addedParameters hp)]
  have hlast : [(dataKey, "true")].filter keep = [] := by
    simp [hdata (dataKey, "true") rfl]
  rw [dataParameters_eq, List.filter_append, List.filter_append, hkept, hadded, hlast, List.append_nil,
    List.append_nil]

/-- What asks for data is the last parameter alone. -/
theorem filter_dataKey_dataParameters (count : Option Nat) (ps : List Parameter) :
    (dataParameters count ps).filter (·.1 = dataKey) = [(dataKey, "true")] := by
  have hkept : (keptParameters count ps).filter (·.1 = dataKey) = [] := by
    rw [List.filter_eq_nil_iff]
    intro p hp
    simp [mem_keptParameters_ne hp]
  have hadded : (addedParameters count ps).filter (·.1 = dataKey) = [] := by
    rw [List.filter_eq_nil_iff]
    intro p hp
    rw [mem_addedParameters hp]
    decide
  rw [dataParameters_eq, List.filter_append, List.filter_append, hkept, hadded]
  rfl

/-! ## Asking again -/

/-- The parameters of a data URL without the last one. -/
theorem filter_ne_dataKey_dataParameters (count : Option Nat) (ps : List Parameter) :
    (dataParameters count ps).filter (·.1 ≠ dataKey) = keptParameters count ps ++ addedParameters count ps := by
  have hfront : (keptParameters count ps ++ addedParameters count ps).filter (·.1 ≠ dataKey) =
      keptParameters count ps ++ addedParameters count ps := by
    rw [List.filter_eq_self]
    intro p hp
    obtain hp | hp := List.mem_append.mp hp
    · simp [mem_keptParameters_ne hp]
    · rw [mem_addedParameters hp]
      decide
  rw [dataParameters_eq, List.filter_append, hfront]
  exact List.append_nil _

theorem any_keptParameters (count : Option Nat) (ps : List Parameter) :
    (keptParameters count ps).any (·.1 = countKey) = ps.any (·.1 = countKey) := by
  rw [keptParameters, List.any_map, List.any_filter]
  apply List.any_congr rfl
  intro p
  show (decide (p.1 ≠ dataKey) && decide ((override count p).1 = countKey)) = decide (p.1 = countKey)
  rw [fst_override]
  by_cases h : p.1 = countKey
  · rw [h]
    decide
  · simp [h]

/-- A data URL with a number of plans has a place for it. -/
theorem any_dataParameters_some (n : Nat) (ps : List Parameter) :
    (dataParameters (some n) ps).any (·.1 = countKey) = true := by
  rw [dataParameters_eq, List.any_append, List.any_append, any_keptParameters, addedParameters]
  cases h : ps.any (·.1 = countKey) with
  | true => rfl
  | false => rfl

theorem any_dataParameters_none (ps : List Parameter) :
    (dataParameters none ps).any (·.1 = countKey) = ps.any (·.1 = countKey) := by
  rw [dataParameters_eq, List.any_append, List.any_append, any_keptParameters]
  show (ps.any (·.1 = countKey) || false || false) = _
  rw [Bool.or_false, Bool.or_false]

/-- Asking without a number changes nothing. -/
theorem dataParameters_none_dataParameters (count : Option Nat) (ps : List Parameter) :
    dataParameters none (dataParameters count ps) = dataParameters count ps := by
  have hkept : keptParameters none (dataParameters count ps) = keptParameters count ps ++ addedParameters count ps := by
    rw [keptParameters, filter_ne_dataKey_dataParameters]
    exact List.map_id _
  rw [dataParameters_eq none, hkept]
  show _ ++ [] ++ _ = _
  rw [List.append_nil]
  rfl

/-- **A number that is asked for again** replaces the one before. -/
theorem dataParameters_dataParameters (count : Option Nat) (n : Nat) (ps : List Parameter) :
    dataParameters (some n) (dataParameters count ps) = dataParameters (some n) ps := by
  have hkept : keptParameters (some n) (dataParameters count ps) =
      keptParameters (some n) ps ++ (addedParameters count ps).map (override (some n)) := by
    rw [keptParameters, filter_ne_dataKey_dataParameters, List.map_append, keptParameters, List.map_map]
    have hlater : override (some n) ∘ override count = override (some n) := by
      funext p
      exact override_override count n p
    rw [hlater]
    rfl
  rw [dataParameters_eq, hkept, dataParameters_eq (some n) ps]
  cases count with
  | none =>
    have hadded : addedParameters (some n) (dataParameters none ps) = addedParameters (some n) ps := by
      rw [addedParameters, addedParameters, any_dataParameters_none]
    rw [hadded]
    show keptParameters (some n) ps ++ [] ++ _ ++ _ = _
    rw [List.append_nil]
  | some m =>
    have hnone : addedParameters (some n) (dataParameters (some m) ps) = [] := by
      rw [addedParameters, any_dataParameters_some]
      rfl
    have hadded : (addedParameters (some m) ps).map (override (some n)) = addedParameters (some n) ps := by
      rw [addedParameters, addedParameters]
      split
      · rfl
      · rfl
    rw [hnone, hadded, List.append_nil]

/-! ## Data URLs -/

theorem page_grown (s : Search) (counts : List Nat) : (counts.foldl grow s).page = s.page := by
  induction counts generalizing s with
  | nil => rfl
  | cons n counts ih => exact ih (s.grow n)

theorem parameters_dataUrl (s : Search) (count : Option Nat) :
    (s.dataUrl count).parameters = dataParameters count s.page.parameters :=
  Url.parameters_withParameters _ _

/-- **The data URL.**  Take any search, let it grow any number of times, and ask for its plans, or for another number
of them.  The parameters of the data URL are, in this order: the parameters of the page, without all that ask for data,
and with the number of plans overridden wherever there is one; the number of plans, if it is given and the page has
none; and the one that asks for data.  So there is just one that asks for data, and it is the last one; every parameter
that is not about the number of plans or the form of the answer is there as it is on the page, with the same key and the
same value, whatever characters they hold, and in the same order.  There is no fragment, and everything before the query
is that of the page. -/
theorem data_url_passes_on (s : Search) (counts : List Nat) (count : Option Nat) :
    let ps := s.page.parameters
    let u := (counts.foldl grow s).dataUrl count
    u.parameters =
        ((ps.filter fun p => p.1 ≠ "json_only").map fun p =>
          match count with
          | some n => if p.1 = "numberResults" then ("numberResults", Text.written n) else p
          | none => p) ++
        (match count with
          | some n => if ∃ p ∈ ps, p.1 = "numberResults" then [] else [("numberResults", Text.written n)]
          | none => []) ++
        [("json_only", "true")] ∧
      u.parameters.filter (·.1 = "json_only") = [("json_only", "true")] ∧
      u.parameters.getLast? = some ("json_only", "true") ∧
      u.parameters.filter (fun p => p.1 ≠ "json_only" ∧ p.1 ≠ "numberResults") =
        ps.filter (fun p => p.1 ≠ "json_only" ∧ p.1 ≠ "numberResults") ∧
      u.fragment = none ∧ u.scheme = s.page.scheme ∧ u.user = s.page.user ∧ u.password = s.page.password ∧
      u.host = s.page.host ∧ u.port = s.page.port ∧ u.path = s.page.path := by
  intro ps u
  have hparameters : u.parameters = dataParameters count ps := by
    show ((counts.foldl grow s).dataUrl count).parameters = _
    rw [parameters_dataUrl, page_grown]
  have hpage : (counts.foldl grow s).page = s.page := page_grown s counts
  rw [hparameters]
  refine ⟨?_, filter_dataKey_dataParameters count ps, ?_, ?_, rfl, ?_⟩
  · cases count with
    | none => rfl
    | some n =>
      have hany : ps.any (·.1 = countKey) = true ↔ ∃ p ∈ ps, p.1 = "numberResults" := by
        rw [List.any_eq_true]
        simp only [decide_eq_true_eq]
        rfl
      rw [dataParameters_eq, addedParameters]
      simp only [hany]
      rfl
  · rw [dataParameters_eq, List.getLast?_concat]
    rfl
  · apply filter_dataParameters
    · intro p hp
      simp [hp, countKey]
    · intro p hp
      simp [hp, dataKey]
  · show (counts.foldl grow s).page.scheme = _ ∧ (counts.foldl grow s).page.user = _ ∧
      (counts.foldl grow s).page.password = _ ∧ (counts.foldl grow s).page.host = _ ∧
      (counts.foldl grow s).page.port = _ ∧ (counts.foldl grow s).page.path = _
    rw [hpage]
    exact ⟨rfl, rfl, rfl, rfl, rfl, rfl⟩

end Search

end PlanBrowser

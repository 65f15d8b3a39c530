import Mathlib.Data.List.Basic
import PlanBrowser.Proofs.Search.Data
import PlanBrowser.Proofs.Search.Page

/-!
# Data URLs are page URLs

The data URL of a search says all that its page URL says, so it can be opened as a page.  The search of that page has
the same location, the same date and the number of plans that was asked for, and it has the same data URLs.

* `Search.trim_text_dataUrl` — a data URL is written without blanks around it;
* `Search.IsOf.reopened` — **the search of a data URL**, by its parameters;
* `Search.data_url_can_be_opened` — **opening a data URL** in its written form.
-/

namespace PlanBrowser.Search

open Url (Parameter)

/-! ## The written form -/

/-- The last parameter is the end of the query. -/
theorem exists_writeParameters_concat (ps : List Parameter) (p : Parameter) :
    ∃ front, Url.writeParameters (ps ++ [p]) = front ++ Url.writeParameter p := by
  induction ps with
  | nil => exact ⟨[], rfl⟩
  | cons q ps ih =>
    obtain ⟨front, hfront⟩ := ih
    obtain ⟨r, rs, hrest⟩ := List.exists_cons_of_ne_nil (List.append_ne_nil_of_right_ne_nil ps (List.cons_ne_nil p []))
    refine ⟨Url.writeParameter q ++ ['&'] ++ front, ?_⟩
    rw [List.append_assoc, ← hfront, List.cons_append, hrest]
    rfl

/-- A data URL ends with the parameter that asks for data. -/
theorem getLast?_chars_dataUrl (s : Search) (count : Option Nat) : (s.dataUrl count).chars.getLast? = some 'e' := by
  obtain ⟨front, hfront⟩ := exists_writeParameters_concat
    (keptParameters count s.page.parameters ++ addedParameters count s.page.parameters) (dataKey, "true")
  have hquery : Url.marked '?' (s.dataUrl count).query = '?' :: (front ++ "json_only=true".toList) := by
    show '?' :: (String.ofList (Url.writeParameters (dataParameters count s.page.parameters))).toList = _
    rw [String.toList_ofList, dataParameters_eq, hfront]
    rfl
  show (_ ++ Url.marked '?' (s.dataUrl count).query ++ []).getLast? = _
  rw [List.append_nil, hquery, List.getLast?_append, ← List.cons_append, List.getLast?_append]
  rfl

theorem head?_chars_dataUrl {s : Search} (hweb : OnWeb s.page) (count : Option Nat) :
    (s.dataUrl count).chars.head? = some 'h' := by
  have hhead : s.page.scheme.toList.head? = some 'h' := by
    obtain hweb | hweb := hweb
    · rw [hweb]
      rfl
    · rw [hweb]
      rfl
  obtain ⟨cs, hcs⟩ := List.head?_eq_some_iff.mp hhead
  show (s.page.scheme.toList ++ _ ++ _ ++ _ ++ _).head? = _
  rw [hcs]
  rfl

/-- **A data URL is written without blanks** around it. -/
theorem trim_text_dataUrl {s : Search} (hweb : OnWeb s.page) (count : Option Nat) :
    Text.trim (s.dataUrl count).text = (s.dataUrl count).text := by
  have htext : (s.dataUrl count).text.toList = (s.dataUrl count).chars := String.toList_ofList
  apply Text.trim_eq_self
  · intro c hc
    rw [htext, head?_chars_dataUrl hweb] at hc
    cases hc
    decide
  · intro c hc
    rw [htext, getLast?_chars_dataUrl] at hc
    cases hc
    decide

/-! ## The search -/

/-- A number in decimal digits tells itself. -/
theorem tellsCount_written {n : Nat} (hpos : 0 < n) (hlt : n < Text.wordBound) : TellsCount (Text.written n) n := by
  refine ⟨?_, hpos, hlt⟩
  rw [Text.trim_written, Text.written, String.toList_ofList]
  exact Text.isNumeral_digits n

/-- Without a number to ask for, the numbers of plans are those of the page. -/
theorem filter_countKey_dataParameters_none (ps : List Parameter) :
    (dataParameters none ps).filter (·.1 = countKey) = ps.filter (·.1 = countKey) := by
  have hkept : (keptParameters none ps).filter (·.1 = countKey) = ps.filter (·.1 = countKey) := by
    show (List.map id (ps.filter (·.1 ≠ dataKey))).filter (·.1 = countKey) = _
    rw [List.map_id, List.filter_filter]
    apply List.filter_congr
    intro p _
    by_cases h : p.1 = countKey
    · rw [h]
      decide
    · simp [h]
  rw [dataParameters_eq, List.filter_append, List.filter_append, hkept]
  show _ ++ [] ++ [] = _
  rw [List.append_nil, List.append_nil]

/-- With a number to ask for, each number of plans is that one. -/
theorem eq_of_mem_dataParameters_some {n : Nat} {v : String} {ps : List Parameter}
    (h : (countKey, v) ∈ dataParameters (some n) ps) : v = Text.written n := by
  rw [dataParameters_eq, List.mem_append, List.mem_append] at h
  obtain (hkept | hadded) | hlast := h
  · obtain ⟨p, -, hp⟩ := List.mem_map.mp hkept
    have hkey : p.1 = countKey := by
      rw [← fst_override (some n) p, hp]
    rw [override, if_pos hkey] at hp
    exact (congrArg Prod.snd hp).symm
  · rw [addedParameters] at hadded
    split at hadded
    · cases hadded
    · exact congrArg Prod.snd (List.mem_singleton.mp hadded)
  · have hkey : countKey = dataKey := congrArg Prod.fst (List.mem_singleton.mp hlast)
    exact absurd hkey (by decide)

theorem lastValue_dataParameters {key : String} (hcount : key ≠ countKey) (hdata : key ≠ dataKey) (count : Option Nat)
    (ps : List Parameter) : lastValue key (dataParameters count ps) = lastValue key ps := by
  rw [lastValue, lastValue, filter_dataParameters]
  · intro p hp
    simp [hp, hcount.symm]
  · intro p hp
    simp [hp, hdata.symm]

/-- Without a number to ask for, the numbers of plans tell what those of the page tell. -/
theorem CountIs.dataParameters_none {ps : List Parameter} {n : Nat} (h : CountIs ps n) :
    CountIs (dataParameters none ps) n := by
  have hfilter := filter_countKey_dataParameters_none ps
  have hmem : ∀ p : Parameter, p.1 = countKey → (p ∈ dataParameters none ps ↔ p ∈ ps) := by
    intro p hp
    have hiff : p ∈ (dataParameters none ps).filter (·.1 = countKey) ↔ p ∈ ps.filter (·.1 = countKey) := by
      rw [hfilter]
    simpa [hp] using hiff
  refine ⟨?_, ?_, ?_⟩
  · intro v hv
    exact h.all v ((hmem _ rfl).mp hv)
  · intro v hv
    apply h.last v
    rw [lastOf_iff] at hv ⊢
    rw [← hfilter, hv]
  · intro hnone
    apply h.default
    intro p hp hkey
    exact hnone p ((hmem p hkey).mpr hp) hkey

/-- With a number to ask for, the numbers of plans tell that one. -/
theorem countIs_dataParameters_some {n : Nat} (hpos : 0 < n) (hlt : n < Text.wordBound) (ps : List Parameter) :
    CountIs (dataParameters (some n) ps) n := by
  have htells : ∀ v, (countKey, v) ∈ dataParameters (some n) ps → TellsCount v n := by
    intro v hv
    rw [eq_of_mem_dataParameters_some hv]
    exact tellsCount_written hpos hlt
  refine ⟨?_, ?_, ?_⟩
  · intro v hv
    exact ⟨n, htells v hv⟩
  · intro v hv
    exact htells v hv.mem
  · intro hnone
    obtain ⟨p, hp, hkey⟩ := List.any_eq_true.mp (any_dataParameters_some n ps)
    exact absurd (of_decide_eq_true hkey) (hnone p hp)

/-- **The search of a data URL.**  It is the search of the page for the number of plans that was asked for. -/
theorem IsOf.reopened {s : Search} (h : s.IsOf s.page) {count : Option Nat}
    (hcount : ∀ n, count = some n → 0 < n ∧ n < Text.wordBound) :
    (⟨s.dataUrl count, s.location, s.date, count.getD s.count⟩ : Search).IsOf (s.dataUrl count) := by
  have hvalue : ∀ key, key ≠ countKey → key ≠ dataKey →
      lastValue key (s.dataUrl count).parameters = lastValue key s.page.parameters := by
    intro key hne hne'
    rw [parameters_dataUrl, lastValue_dataParameters hne hne']
  have hlocation := hvalue locationKey (by decide) (by decide)
  have hlocated : Located (s.dataUrl count).parameters := by
    rw [← lastValue_ne_empty_iff, hlocation, lastValue_ne_empty_iff]
    exact h.located
  have hnumber : CountIs (s.dataUrl count).parameters (count.getD s.count) := by
    rw [parameters_dataUrl]
    cases count with
    | none => exact h.count.dataParameters_none
    | some n =>
      obtain ⟨hpos, hlt⟩ := hcount n rfl
      exact countIs_dataParameters_some hpos hlt s.page.parameters
  exact ⟨rfl, h.onWeb, hlocated, h.location.trans hlocation.symm,
    h.date.trans (hvalue dateKey (by decide) (by decide)).symm, hnumber⟩

/-! ## Opening it -/

/-- The data URL of a data URL, asked for without a number, is the same. -/
theorem dataUrl_none_of_dataUrl {s s' : Search} {count : Option Nat} (h : s'.page = s.dataUrl count) :
    s'.dataUrl none = s.dataUrl count := by
  show s'.page.withParameters (dataParameters none s'.page.parameters) = _
  rw [h, parameters_dataUrl, dataParameters_none_dataParameters]
  rfl

/-- The data URL of a data URL, asked for another number, is that of the page. -/
theorem dataUrl_some_of_dataUrl {s s' : Search} {count : Option Nat} (h : s'.page = s.dataUrl count) (n : Nat) :
    s'.dataUrl (some n) = s.dataUrl (some n) := by
  show s'.page.withParameters (dataParameters (some n) s'.page.parameters) = _
  rw [h, parameters_dataUrl, dataParameters_dataParameters]
  rfl

/-- **Opening a data URL.**  Take the search of a page, and ask for its plans, or for another number of them.  If the
data URL is read as it was written, it is the page of a search: with the same location and the same date, and with the
number of plans that was asked for, or that of the page if none was.  The data URL of that search for any number is the
one of the first search, and without a number it is the URL that was opened. -/
theorem data_url_can_be_opened {text : String} {s : Search} {count : Option Nat} (hs : ofPage text = .ok s)
    (hcount : ∀ n, count = some n → 0 < n ∧ n < Text.wordBound)
    (hread : Url.parse (s.dataUrl count).text = .ok (s.dataUrl count)) :
    ∃ s', ofPage (s.dataUrl count).text = .ok s' ∧
      s'.location = s.location ∧ s'.date = s.date ∧ s'.count = count.getD s.count ∧
      (∀ m, s'.dataUrl (some m) = s.dataUrl (some m)) ∧ s'.dataUrl none = s.dataUrl count := by
  have hof : s.IsOf s.page := isOf_of_ofPage hs
  rw [← trim_text_dataUrl hof.onWeb count] at hread
  refine ⟨⟨s.dataUrl count, s.location, s.date, count.getD s.count⟩, ?_, rfl, rfl, rfl, ?_, ?_⟩
  · exact (ofPage_eq_ok_iff hread).mpr (hof.reopened hcount)
  · intro m
    exact dataUrl_some_of_dataUrl rfl m
  · exact dataUrl_none_of_dataUrl rfl

/-- A page that says the number of plans twice, asked for seven plans. -/
theorem data_url_can_be_opened_for_seven_plans :
    let text := "http://[::1]/p?numberResults=2&location=a+b&json_only=x&numberResults=%2b03#f"
    let page : Url := ⟨"http", "", none, some (.ipv6 [0, 0, 0, 0, 0, 0, 0, 1]), none, .segments ["p"], false,
      some "numberResults=2&location=a+b&json_only=x&numberResults=%2b03", some "f"⟩
    let s : Search := ⟨page, "a b", "", 3⟩
    let again := "http://[::1]/p?numberResults=7&location=a+b&numberResults=7&json_only=true"
    ofPage text = .ok s ∧ (s.dataUrl (some 7)).text = again ∧ Url.parse again = .ok (s.dataUrl (some 7)) ∧
      ∃ s', ofPage again = .ok s' ∧ s'.location = "a b" ∧ s'.date = "" ∧ s'.count = 7 ∧
        (∀ m, s'.dataUrl (some m) = s.dataUrl (some m)) ∧ s'.dataUrl none = s.dataUrl (some 7) := by
  intro text page s again
  have hs : ofPage text = .ok s := by decide +kernel
  have hagain : (s.dataUrl (some 7)).text = again := by decide +kernel
  have hread : Url.parse again = .ok (s.dataUrl (some 7)) := by decide +kernel
  have hcount : ∀ n, some 7 = some n → 0 < n ∧ n < Text.wordBound := by
    intro n hn
    cases hn
    decide
  refine ⟨hs, hagain, hread, ?_⟩
  rw [← hagain] at hread ⊢
  exact data_url_can_be_opened hs hcount hread

end PlanBrowser.Search

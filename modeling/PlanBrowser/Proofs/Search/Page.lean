import PlanBrowser.Proofs.Text.Numeral
import PlanBrowser.Search

/-!
# Which pages are pages of a search

A text is the URL of a results page if it is a URL of the web, if every number of plans among its parameters is one, and
if it has a location.  A key may stand there several times: the last parameter with a key tells the location, the date
and the number of plans, but every number of plans has to be right, also one that another replaces.

* `Search.TellsCount` — the values that are numbers of plans;
* `Search.LastOf` — the value of the last parameter with a key, which is the one that counts;
* `Search.AllCount`, `Search.FirstWrong` — every number of plans is right, or the first that is not;
* `Search.CountIs` — the number that the numbers of plans tell;
* `Search.Located` — the last location is not blank;
* `Search.exists_countIs`, `Search.counts_of_firstWrong` — **all numbers of plans**, right or not;
* `Search.IsOf`, `Search.ofPage_eq_ok_iff` — the search of a page, from what its parameters say;
* `Search.ofPage_cases`, `Search.ofPage_eq_error_iff` — the ways in which a page is opened, and what may be wrong;
* `Search.page_of_search_iff` — **which texts are pages of a search**, of which one, and what is wrong with the others.
-/

namespace PlanBrowser.Search

open Url (Parameter)

/-! ## Numbers of plans -/

/-- **The value is a number of plans**: between blanks, a numeral of a number from one to the largest word of 64
bits. -/
def TellsCount (value : String) (n : Nat) : Prop :=
  Text.IsNumeral (Text.trim value).toList n ∧ 0 < n ∧ n < Text.wordBound

theorem readWord?_eq_some_iff {s : String} {n : Nat} :
    Text.readWord? s = some n ↔ Text.IsNumeral s.toList n ∧ n < Text.wordBound :=
  Text.read?_eq_some_iff

theorem readCount_eq_ok_iff {value : String} {n : Nat} : readCount value = .ok n ↔ TellsCount value n := by
  constructor
  · intro h
    rw [readCount] at h
    split at h
    · next m hread =>
      cases h
      obtain ⟨hnumeral, hlt⟩ := readWord?_eq_some_iff.mp hread
      exact ⟨hnumeral, Nat.succ_pos m, hlt⟩
    · cases h
  · intro h
    obtain ⟨hnumeral, hpos, hlt⟩ := h
    obtain ⟨m, rfl⟩ : ∃ m, n = m + 1 := ⟨n - 1, by omega⟩
    rw [readCount, readWord?_eq_some_iff.mpr ⟨hnumeral, hlt⟩]

/-- A value tells one number only. -/
theorem TellsCount.unique {value : String} {n m : Nat} (h : TellsCount value n) (h' : TellsCount value m) : n = m :=
  Except.ok.inj ((readCount_eq_ok_iff.mpr h).symm.trans (readCount_eq_ok_iff.mpr h'))

/-- A value that is no number of plans is told as it is. -/
theorem readCount_of_not {value : String} (h : ∀ n, ¬ TellsCount value n) :
    readCount value = .error (.badCount value) := by
  rw [readCount]
  split
  · next n hread =>
    obtain ⟨hnumeral, hlt⟩ := readWord?_eq_some_iff.mp hread
    exact absurd ⟨hnumeral, Nat.succ_pos n, hlt⟩ (h (n + 1))
  · rfl

/-! ## The parameters with a key -/

/-- **The last parameter** with a key has this value. -/
def LastOf (key value : String) (ps : List Parameter) : Prop :=
  ∃ before after, ps = before ++ (key, value) :: after ∧ ∀ p ∈ after, p.1 ≠ key

/-- **Every number of plans is right**, also one that another replaces. -/
def AllCount (ps : List Parameter) : Prop :=
  ∀ value, (countKey, value) ∈ ps → ∃ n, TellsCount value n

/-- **The numbers of plans tell one of them**: all are right, and the last one counts, or the default if there is
none. -/
structure CountIs (ps : List Parameter) (n : Nat) : Prop where
  all : AllCount ps
  last : ∀ value, LastOf countKey value ps → TellsCount value n
  default : (∀ p ∈ ps, p.1 ≠ countKey) → n = defaultCount

/-- **The last location** is not blank. -/
def Located (ps : List Parameter) : Prop :=
  ∃ value, LastOf locationKey value ps ∧ Text.trim value ≠ ""

/-- **The first value that should be a number of plans and is none.** -/
def FirstWrong (value : String) (ps : List Parameter) : Prop :=
  ∃ before after, ps = before ++ (countKey, value) :: after ∧
    AllCount before ∧ ∀ n, ¬ TellsCount value n

theorem filter_key_eq_nil {key : String} {ps : List Parameter} (h : ∀ p ∈ ps, p.1 ≠ key) :
    ps.filter (·.1 = key) = [] := by
  rw [List.filter_eq_nil_iff]
  intro p hp
  simp [h p hp]

theorem LastOf.mem {key value : String} {ps : List Parameter} (h : LastOf key value ps) : (key, value) ∈ ps := by
  obtain ⟨before, after, rfl, -⟩ := h
  exact List.mem_append_right before List.mem_cons_self

theorem getLast?_filter_of_lastOf {key value : String} {ps : List Parameter} (h : LastOf key value ps) :
    (ps.filter (·.1 = key)).getLast? = some (key, value) := by
  obtain ⟨before, after, rfl, hafter⟩ := h
  rw [List.filter_append, List.filter_cons, filter_key_eq_nil hafter]
  simp

/-- Either there is a last parameter with a key, or there is none at all. -/
theorem exists_lastOf_or (key : String) (ps : List Parameter) :
    (∃ value, LastOf key value ps) ∨ ∀ p ∈ ps, p.1 ≠ key := by
  induction ps with
  | nil => exact .inr fun p hp => absurd hp List.not_mem_nil
  | cons p ps ih =>
    obtain ⟨value, before, after, rfl, hafter⟩ | hnone := ih
    · exact .inl ⟨value, p :: before, after, rfl, hafter⟩
    · by_cases hp : p.1 = key
      · exact .inl ⟨p.2, [], ps, by rw [← hp]; rfl, hnone⟩
      · refine .inr fun q hq => ?_
        obtain rfl | hq := List.mem_cons.mp hq
        · exact hp
        · exact hnone q hq

theorem lastOf_iff {key value : String} {ps : List Parameter} :
    LastOf key value ps ↔ (ps.filter (·.1 = key)).getLast? = some (key, value) := by
  constructor
  · exact getLast?_filter_of_lastOf
  · intro h
    obtain ⟨v, hv⟩ | hnone := exists_lastOf_or key ps
    · cases h.symm.trans (getLast?_filter_of_lastOf hv)
      exact hv
    · rw [filter_key_eq_nil hnone] at h
      cases h

theorem lastValue_of_lastOf {key value : String} {ps : List Parameter} (h : LastOf key value ps) :
    lastValue key ps = Text.trim value := by
  rw [lastValue, getLast?_filter_of_lastOf h]

theorem lastValue_of_none {key : String} {ps : List Parameter} (h : ∀ p ∈ ps, p.1 ≠ key) : lastValue key ps = "" := by
  rw [lastValue, filter_key_eq_nil h]
  rfl

/-- A page without a location, or with a blank one, has no location. -/
theorem lastValue_ne_empty_iff {ps : List Parameter} : lastValue locationKey ps ≠ "" ↔ Located ps := by
  obtain ⟨value, hlast⟩ | hnone := exists_lastOf_or locationKey ps
  · constructor
    · intro h
      exact ⟨value, hlast, lastValue_of_lastOf hlast ▸ h⟩
    · intro h
      obtain ⟨v, hv, hne⟩ := h
      rw [lastValue_of_lastOf hv]
      exact hne
  · constructor
    · intro h
      exact absurd (lastValue_of_none hnone) h
    · intro h
      obtain ⟨v, hv, -⟩ := h
      exact absurd rfl (hnone (locationKey, v) hv.mem)

/-! ## All numbers of plans -/

theorem counts_cons_of_ne {p : Parameter} (h : p.1 ≠ countKey) (ps : List Parameter) : counts (p :: ps) = counts ps := by
  rw [counts, List.filter_cons, if_neg (by simpa using h)]
  rfl

theorem counts_cons (value : String) (ps : List Parameter) :
    counts ((countKey, value) :: ps) = (do
      let n ← readCount value
      let ns ← counts ps
      pure (n :: ns)) := by
  rw [counts, List.filter_cons, if_pos (by simp), List.mapM_cons]
  rfl

/-- **The first wrong number of plans** is told. -/
theorem counts_of_firstWrong {value : String} {ps : List Parameter} (h : FirstWrong value ps) :
    counts ps = .error (.badCount value) := by
  obtain ⟨before, after, rfl, hbefore, hwrong⟩ := h
  induction before with
  | nil =>
    show counts ((countKey, value) :: after) = _
    rw [counts_cons, readCount_of_not hwrong]
    rfl
  | cons p before ih =>
    have hrest := ih fun v hv => hbefore v (List.mem_cons_of_mem p hv)
    obtain ⟨key, v⟩ := p
    by_cases hkey : key = countKey
    · rw [hkey] at hbefore ⊢
      obtain ⟨n, hn⟩ := hbefore v List.mem_cons_self
      rw [List.cons_append, counts_cons, readCount_eq_ok_iff.mpr hn, hrest]
      rfl
    · rw [List.cons_append, counts_cons_of_ne hkey, hrest]

/-- **The numbers of plans**, if all of them are right. -/
theorem exists_counts_eq_ok {ps : List Parameter} (h : AllCount ps) :
    ∃ ns, counts ps = .ok ns ∧ (ps.filter (·.1 = countKey)).map (fun p => readCount p.2) = ns.map .ok := by
  induction ps with
  | nil => exact ⟨[], rfl, rfl⟩
  | cons p ps ih =>
    obtain ⟨ns, hns, hall⟩ := ih fun v hv => h v (List.mem_cons_of_mem p hv)
    obtain ⟨key, v⟩ := p
    by_cases hkey : key = countKey
    · rw [hkey] at h ⊢
      obtain ⟨n, hn⟩ := h v List.mem_cons_self
      have hread : readCount v = .ok n := readCount_eq_ok_iff.mpr hn
      refine ⟨n :: ns, ?_, ?_⟩
      · rw [counts_cons, hread, hns]
        rfl
      · rw [List.filter_cons, if_pos (by simp), List.map_cons, hread, hall]
        rfl
    · refine ⟨ns, ?_, ?_⟩
      · rw [counts_cons_of_ne hkey, hns]
      · rw [List.filter_cons, if_neg (by simpa using hkey)]
        exact hall

/-- **The last number of plans** is the one that counts; without any, it is the default. -/
theorem exists_countIs {ps : List Parameter} (h : AllCount ps) :
    ∃ ns, counts ps = .ok ns ∧ CountIs ps (ns.getLast?.getD defaultCount) := by
  obtain ⟨ns, hns, hall⟩ := exists_counts_eq_ok h
  have hlast : (ps.filter (·.1 = countKey)).getLast?.map (fun p => readCount p.2) = ns.getLast?.map .ok := by
    rw [← List.getLast?_map, hall, List.getLast?_map]
  refine ⟨ns, hns, h, ?_, ?_⟩
  · intro v hv
    rw [getLast?_filter_of_lastOf hv] at hlast
    cases h : ns.getLast? with
    | none =>
      rw [h] at hlast
      cases hlast
    | some n =>
      rw [h] at hlast
      exact readCount_eq_ok_iff.mp (Option.some.inj hlast)
  · intro hnone
    rw [filter_key_eq_nil hnone] at hall
    rw [List.map_eq_nil_iff.mp hall.symm]
    rfl

/-- The numbers of plans tell one number only. -/
theorem CountIs.unique {ps : List Parameter} {n m : Nat} (h : CountIs ps n) (h' : CountIs ps m) : n = m := by
  obtain ⟨v, hv⟩ | hnone := exists_lastOf_or countKey ps
  · exact (h.last v hv).unique (h'.last v hv)
  · rw [h.default hnone, h'.default hnone]

/-- A plan at least is asked for. -/
theorem CountIs.pos {ps : List Parameter} {n : Nat} (h : CountIs ps n) : 1 ≤ n := by
  obtain ⟨v, hv⟩ | hnone := exists_lastOf_or countKey ps
  · exact (h.last v hv).2.1
  · rw [h.default hnone]
    decide

/-- Either all numbers of plans are right, or there is a first wrong one. -/
theorem allCount_or (ps : List Parameter) : AllCount ps ∨ ∃ v, FirstWrong v ps := by
  induction ps with
  | nil => exact .inl fun v hv => absurd hv List.not_mem_nil
  | cons p ps ih =>
    obtain ⟨key, w⟩ := p
    by_cases hp : key = countKey ∧ ∀ n, ¬ TellsCount w n
    · obtain ⟨rfl, hwrong⟩ := hp
      exact .inr ⟨w, [], ps, rfl, fun v hv => absurd hv List.not_mem_nil, hwrong⟩
    · have hw : ∀ v, (countKey, v) = (key, w) → ∃ n, TellsCount v n := by
        intro v hv
        cases hv
        apply Classical.byContradiction
        intro hnone
        exact hp ⟨rfl, fun n hn => hnone ⟨n, hn⟩⟩
      obtain hall | ⟨v, before, after, rfl, hbefore, hwrong⟩ := ih
      · refine .inl fun v hv => ?_
        obtain hv | hv := List.mem_cons.mp hv
        · exact hw v hv
        · exact hall v hv
      · refine .inr ⟨v, (key, w) :: before, after, rfl, fun v' hv' => ?_, hwrong⟩
        obtain hv' | hv' := List.mem_cons.mp hv'
        · exact hw v' hv'
        · exact hbefore v' hv'

/-! ## Pages -/

/-- The page is on the web. -/
def OnWeb (page : Url) : Prop :=
  page.scheme = "http" ∨ page.scheme = "https"

/-- The search of a page, once its numbers of plans are read. -/
theorem ofPage_eq {text : String} {page : Url} (h : Url.parse (Text.trim text) = .ok page) :
    ofPage text =
      if page.scheme ≠ "http" ∧ page.scheme ≠ "https" then .error (.notWeb text)
      else match counts page.parameters with
        | .error fault => .error fault
        | .ok ns =>
          if lastValue locationKey page.parameters = "" then .error .noLocation
          else .ok ⟨page, lastValue locationKey page.parameters, lastValue dateKey page.parameters,
            ns.getLast?.getD defaultCount⟩ := by
  unfold ofPage
  rw [h]
  dsimp only
  by_cases hweb : page.scheme ≠ "http" ∧ page.scheme ≠ "https"
  · rw [if_pos hweb, if_pos hweb]
    rfl
  · rw [if_neg hweb, if_neg hweb]
    cases counts page.parameters with
    | error fault => rfl
    | ok ns =>
      show (if lastValue locationKey page.parameters = "" then _ else _) = _
      split
      · rfl
      · rfl

/-- **The search is that of the page**, by what the parameters of the page say. -/
structure IsOf (s : Search) (u : Url) : Prop where
  page : s.page = u
  onWeb : OnWeb u
  located : Located u.parameters
  location : s.location = lastValue locationKey u.parameters
  date : s.date = lastValue dateKey u.parameters
  count : CountIs u.parameters s.count

/-- A page is the page of one search only. -/
theorem IsOf.eq {s s' : Search} {u : Url} (h : s.IsOf u) (h' : s'.IsOf u) : s = s' := by
  have hpage : s.page = s'.page := h.page.trans h'.page.symm
  have hlocation : s.location = s'.location := h.location.trans h'.location.symm
  have hdate : s.date = s'.date := h.date.trans h'.date.symm
  have hcount : s.count = s'.count := h.count.unique h'.count
  cases s
  cases s'
  simp only [mk.injEq]
  exact ⟨hpage, hlocation, hdate, hcount⟩

section

variable {text : String} {page : Url}

theorem ofPage_of_fault {cause : Url.Fault} (h : Url.parse (Text.trim text) = .error cause) :
    ofPage text = .error (.noUrl text cause) := by
  rw [ofPage, h]
  rfl

theorem ofPage_of_not_web (h : Url.parse (Text.trim text) = .ok page) (hweb : ¬ OnWeb page) :
    ofPage text = .error (.notWeb text) := by
  rw [ofPage_eq h, if_pos (not_or.mp hweb)]

theorem ofPage_of_firstWrong {value : String} (h : Url.parse (Text.trim text) = .ok page) (hweb : OnWeb page)
    (hwrong : FirstWrong value page.parameters) : ofPage text = .error (.badCount value) := by
  rw [ofPage_eq h, if_neg fun hnot => not_or.mpr hnot hweb, counts_of_firstWrong hwrong]

theorem ofPage_of_not_located (h : Url.parse (Text.trim text) = .ok page) (hweb : OnWeb page)
    (hcount : AllCount page.parameters) (hlocated : ¬ Located page.parameters) : ofPage text = .error .noLocation := by
  obtain ⟨ns, hns, -⟩ := exists_counts_eq_ok hcount
  have hempty : lastValue locationKey page.parameters = "" :=
    Classical.byContradiction fun hne => hlocated (lastValue_ne_empty_iff.mp hne)
  rw [ofPage_eq h, if_neg fun hnot => not_or.mpr hnot hweb, hns]
  exact if_pos hempty

theorem exists_ofPage_eq_ok (h : Url.parse (Text.trim text) = .ok page) (hweb : OnWeb page)
    (hcount : AllCount page.parameters) (hlocated : Located page.parameters) :
    ∃ s, ofPage text = .ok s ∧ s.IsOf page := by
  obtain ⟨ns, hns, hnumber⟩ := exists_countIs hcount
  refine ⟨⟨page, lastValue locationKey page.parameters, lastValue dateKey page.parameters,
    ns.getLast?.getD defaultCount⟩, ?_, ⟨rfl, hweb, hlocated, rfl, rfl, hnumber⟩⟩
  rw [ofPage_eq h, if_neg fun hnot => not_or.mpr hnot hweb, hns]
  exact if_neg (lastValue_ne_empty_iff.mpr hlocated)

/-- **The ways in which a page is opened**, or not. -/
theorem ofPage_cases (h : Url.parse (Text.trim text) = .ok page) :
    (¬ OnWeb page ∧ ofPage text = .error (.notWeb text)) ∨
      (OnWeb page ∧ ∃ v, FirstWrong v page.parameters ∧ ofPage text = .error (.badCount v)) ∨
      (OnWeb page ∧ AllCount page.parameters ∧ ¬ Located page.parameters ∧ ofPage text = .error .noLocation) ∨
      ∃ s, ofPage text = .ok s ∧ s.IsOf page := by
  by_cases hweb : OnWeb page
  · obtain hcount | ⟨v, hwrong⟩ := allCount_or page.parameters
    · by_cases hlocated : Located page.parameters
      · exact .inr (.inr (.inr (exists_ofPage_eq_ok h hweb hcount hlocated)))
      · exact .inr (.inr (.inl ⟨hweb, hcount, hlocated, ofPage_of_not_located h hweb hcount hlocated⟩))
    · exact .inr (.inl ⟨hweb, v, hwrong, ofPage_of_firstWrong h hweb hwrong⟩)
  · exact .inl ⟨hweb, ofPage_of_not_web h hweb⟩

/-- **The search of a page**, if it is one. -/
theorem ofPage_eq_ok_iff (h : Url.parse (Text.trim text) = .ok page) {s : Search} :
    ofPage text = .ok s ↔ s.IsOf page := by
  constructor
  · intro hs
    obtain ⟨-, hends⟩ | ⟨-, v, -, hends⟩ | ⟨-, -, -, hends⟩ | ⟨s', hends, hof⟩ := ofPage_cases h
    · cases hs.symm.trans hends
    · cases hs.symm.trans hends
    · cases hs.symm.trans hends
    · cases hs.symm.trans hends
      exact hof
  · intro hof
    obtain ⟨s', hs', hof'⟩ := exists_ofPage_eq_ok h hof.onWeb hof.count.all hof.located
    rw [hs', hof.eq hof']

/-- **What is wrong with a page**, if it is not the page of a search. -/
theorem ofPage_eq_error_iff (h : Url.parse (Text.trim text) = .ok page) {fault : Fault} :
    ofPage text = .error fault ↔
      (¬ OnWeb page ∧ fault = .notWeb text) ∨
      (OnWeb page ∧ ∃ v, FirstWrong v page.parameters ∧ fault = .badCount v) ∨
      (OnWeb page ∧ AllCount page.parameters ∧ ¬ Located page.parameters ∧ fault = .noLocation) := by
  constructor
  · intro hfault
    obtain ⟨hweb, hends⟩ | ⟨hweb, v, hwrong, hends⟩ | ⟨hweb, hcount, hlocated, hends⟩ | ⟨s, hends, -⟩ := ofPage_cases h
    · cases hfault.symm.trans hends
      exact .inl ⟨hweb, rfl⟩
    · cases hfault.symm.trans hends
      exact .inr (.inl ⟨hweb, v, hwrong, rfl⟩)
    · cases hfault.symm.trans hends
      exact .inr (.inr ⟨hweb, hcount, hlocated, rfl⟩)
    · cases hfault.symm.trans hends
  · intro hfault
    obtain ⟨hweb, rfl⟩ | ⟨hweb, v, hwrong, rfl⟩ | ⟨hweb, hcount, hlocated, rfl⟩ := hfault
    · exact ofPage_of_not_web h hweb
    · exact ofPage_of_firstWrong h hweb hwrong
    · exact ofPage_of_not_located h hweb hcount hlocated

theorem isOf_of_ofPage {s : Search} (h : ofPage text = .ok s) : s.IsOf s.page := by
  cases hparse : Url.parse (Text.trim text) with
  | error cause => cases h.symm.trans (ofPage_of_fault hparse)
  | ok page =>
    have hof : s.IsOf page := (ofPage_eq_ok_iff hparse).mp h
    exact hof.page ▸ hof

end

/-- **Which texts are pages of a search.**  A text that is no URL is told with what is wrong with it.  A URL is the page
of a search just if it is on the web, every one of its numbers of plans is a positive number that fits in a word, in
decimal digits and perhaps after a plus sign, and the last of its locations is not blank.  The search has the last
location and the last date of the page, without the blanks around them, and no date if there is none; the location is
not empty; the number of plans is the last one, or five, and at least one.  Of what may be wrong, what the page is
comes first, then the first number of plans that is none, then the missing location. -/
theorem page_of_search_iff (text : String) :
    match Url.parse (Text.trim text) with
    | .error cause => ofPage text = .error (.noUrl text cause)
    | .ok page =>
      let ps := page.parameters
      let web := page.scheme = "http" ∨ page.scheme = "https"
      let counted := ∀ v, ("numberResults", v) ∈ ps → ∃ n, TellsCount v n
      let located := ∃ v, LastOf "location" v ps ∧ Text.trim v ≠ ""
      ((∃ s, ofPage text = .ok s) ↔ web ∧ counted ∧ located) ∧
      (∀ s, ofPage text = .ok s →
        s.page = page ∧
        (∃ v, LastOf "location" v ps ∧ s.location = Text.trim v) ∧ s.location ≠ "" ∧
        (∀ v, LastOf "date" v ps → s.date = Text.trim v) ∧ ((∀ p ∈ ps, p.1 ≠ "date") → s.date = "") ∧
        (∀ v, LastOf "numberResults" v ps → TellsCount v s.count) ∧
        ((∀ p ∈ ps, p.1 ≠ "numberResults") → s.count = 5) ∧ 1 ≤ s.count) ∧
      ∀ fault, ofPage text = .error fault ↔
        (¬ web ∧ fault = .notWeb text) ∨
        (web ∧ ∃ v, FirstWrong v ps ∧ fault = .badCount v) ∨
        (web ∧ counted ∧ ¬ located ∧ fault = .noLocation) := by
  cases h : Url.parse (Text.trim text) with
  | error cause =>
    exact ofPage_of_fault h
  | ok page =>
    refine ⟨?_, ?_, ?_⟩
    · constructor
      · intro hs
        obtain ⟨s, hs⟩ := hs
        have hof : s.IsOf page := (ofPage_eq_ok_iff h).mp hs
        exact ⟨hof.onWeb, hof.count.all, hof.located⟩
      · intro hright
        obtain ⟨hweb, hcounted, hlocated⟩ := hright
        obtain ⟨s, hs, -⟩ := exists_ofPage_eq_ok h hweb hcounted hlocated
        exact ⟨s, hs⟩
    · intro s hs
      have hof : s.IsOf page := (ofPage_eq_ok_iff h).mp hs
      obtain ⟨v, hlast, hne⟩ := hof.located
      have hlocation : s.location = Text.trim v := hof.location.trans (lastValue_of_lastOf hlast)
      exact ⟨hof.page, ⟨v, hlast, hlocation⟩, hlocation ▸ hne, fun v' hv' => hof.date.trans (lastValue_of_lastOf hv'),
        fun hnone => hof.date.trans (lastValue_of_none hnone), hof.count.last, hof.count.default, hof.count.pos⟩
    · intro fault
      exact ofPage_eq_error_iff h

end PlanBrowser.Search

import PlanBrowser.Output
import PlanBrowser.Proofs.Html.Marks
import PlanBrowser.Proofs.Json.Roundtrip
import PlanBrowser.Proofs.Json.Same
import PlanBrowser.Proofs.Session.Pool

/-!
# The page and the data of a session

A session is written as a page or as data, and each way goes through the plans in a loop of its own.  The page takes
every plan that counts as shown, and gives controls of an untouched plan to one that has none; the data leaves such a
plan out.  As each shown plan has its controls, both list the same plans, with the same links and controls.

* `ShownPlan.fragment` — the fragment of a shown plan;
* `Session.Fits.shownFragments_eq` — **the page shows what the data lists**;
* `Page.beforeItems`, `Page.afterItems` — what stands around the items of the results page;
* `Page.afterItems_inj` — the end of a page tells whether the control that loads more is hidden;
* `Json.Admits`, `Snapshot.admits_toJson` — what kinds of values data is made of;
* `Session.page_and_data_agree` — **both are written in full**, and the data is read back.
-/

namespace PlanBrowser

/-- **The fragment of a shown plan**, made from the data. -/
def ShownPlan.fragment (p : ShownPlan) : Fragment :=
  Fragment.ofPlan p.plan p.index p.detailLink p.controls

/-! ## Shown plans -/

namespace Session

theorem shownPlanData?_eq_some {s : Session} {i : Nat} {p : ShownPlan} (h : s.shownPlanData? i = some p) :
    s.plan? i = some p.plan ∧ s.controls[i]? = some p.controls ∧ p.index = i ∧ p.detailLink = s.detailLink i := by
  unfold shownPlanData? at h
  split at h
  · next plan controls hplan hcontrols =>
    cases h
    exact ⟨hplan, hcontrols, rfl, rfl⟩
  · cases h

theorem Fits.fragment?_eq {s : Session} (h : s.Fits) {i : Nat} (hi : i < s.visible) :
    s.fragment? i = (s.shownPlanData? i).map ShownPlan.fragment := by
  obtain ⟨p, controls, -, hdata⟩ := h.shownPlanData?_eq hi
  obtain ⟨hplan, hcontrols, -, -⟩ := shownPlanData?_eq_some hdata
  rw [hdata, Option.map_some]
  simp only [fragment?, controlsFor, hplan, hcontrols]
  rfl

/-- **The page shows what the data lists.** -/
theorem Fits.shownFragments_eq {s : Session} (h : s.Fits) :
    s.shownFragments = s.snapshot.plans.map ShownPlan.fragment := by
  have hrange : List.range' 0 (min s.shown s.available - 0) = List.range s.visible := List.range_eq_range'.symm
  show (List.range' 0 (min s.shown s.available - 0)).filterMap s.fragment? =
    ((List.range s.visible).filterMap s.shownPlanData?).map ShownPlan.fragment
  rw [hrange, List.map_filterMap]
  exact List.filterMap_congr fun i hi => h.fragment?_eq (List.mem_range.mp hi)

theorem mem_plans_snapshot {s : Session} {p : ShownPlan} (h : p ∈ s.snapshot.plans) :
    s.plan? p.index = some p.plan ∧ s.controls[p.index]? = some p.controls ∧
      p.detailLink = s.detailLink p.index := by
  obtain ⟨i, -, hdata⟩ := List.mem_filterMap.mp h
  obtain ⟨hplan, hcontrols, rfl, hlink⟩ := shownPlanData?_eq_some hdata
  exact ⟨hplan, hcontrols, hlink⟩

end Session

/-! ## The page -/

namespace Page

open Html (Piece flag)

/-- What stands before the items of the results page. -/
def beforeItems (destination user : String) : List Piece :=
  head ++ opening destination user
  ++ [.markup "<h1 class=\"h3 mb-3\" id=\"travel-destination\">", .text destination,
    .markup "</h1>\n<div class=\"accordion\" id=\"plans\">\n"]

/-- The looks of the control that loads more. -/
def moreLooks (hidden : Bool) : List Piece :=
  [.markup " class=\"btn btn-outline-primary\"", flag hidden " style=\"display: none\""]

/-- **What stands after the items of the results page**, with the control that loads more. -/
def afterItems (hidden : Bool) : List Piece :=
  [.markup "</div>\n<div class=\"d-grid my-3\"><button id=\"load-more-btn\" type=\"button\""]
  ++ moreLooks hidden ++ (.markup ">load more</button></div>\n</main>\n" :: foot)

theorem results_eq (destination user : String) (items : List Piece) (moreVisible : Bool) :
    results destination user items moreVisible =
      beforeItems destination user ++ items ++ afterItems (!moreVisible) := by
  simp only [results, beforeItems, afterItems, moreLooks, List.append_assoc, List.cons_append, List.nil_append]

/-- The last characters tell the looks of a shown control from those of a hidden one. -/
theorem not_moreLooks_suffix : ¬ Html.chars (moreLooks false) <:+ Html.chars (moreLooks true) := by
  decide

theorem moreLooks_inj {text : List Char} {hidden hidden' : Bool}
    (h : Html.chars (moreLooks hidden) <:+ text) (h' : Html.chars (moreLooks hidden') <:+ text) :
    hidden = hidden' := by
  have hlonger : (Html.chars (moreLooks false)).length ≤ (Html.chars (moreLooks true)).length := by
    decide
  cases hidden <;> cases hidden'
  · rfl
  · exact absurd (List.suffix_of_suffix_length_le h h' hlonger) not_moreLooks_suffix
  · exact absurd (List.suffix_of_suffix_length_le h' h hlonger) not_moreLooks_suffix
  · rfl

/-- **The end of a page tells** whether the control that loads more is hidden. -/
theorem afterItems_inj {page : List Char} {hidden hidden' : Bool}
    (h : Html.chars (afterItems hidden) <:+ page) (h' : Html.chars (afterItems hidden') <:+ page) :
    hidden = hidden' := by
  obtain ⟨front, hfront⟩ := h
  obtain ⟨front', hfront'⟩ := h'
  rw [afterItems, Html.chars_append, Html.chars_append, ← List.append_assoc, ← List.append_assoc] at hfront hfront'
  have hcut := List.append_cancel_right (hfront.trans hfront'.symm)
  exact moreLooks_inj (hcut ▸ List.suffix_append _ _) (List.suffix_append _ _)

end Page

/-- What is written already stands in a page as it is. -/
theorem Html.chars_map_markup (items : List String) :
    Html.chars (items.map Html.Piece.markup) = items.flatMap String.toList := by
  rw [Html.chars, List.flatMap_map]
  rfl

theorem resultsPage_toList (destination user : String) (items : List String) (moreVisible : Bool) :
    (resultsPage destination user items moreVisible).toList =
      Html.chars (Page.beforeItems destination user) ++ items.flatMap String.toList ++
        Html.chars (Page.afterItems (!moreVisible)) := by
  rw [resultsPage, Html.render, String.toList_ofList, Page.results_eq, Html.chars_append, Html.chars_append,
    Html.chars_map_markup]

/-! ## The data -/

/-- **A class of values that data is made of**: all but doubles, and objects in which no two members have one name. -/
structure Json.Admits (C : Json → Prop) : Prop where
  null : C .null
  bool : ∀ b, C (.bool b)
  natural : ∀ n, C (.number (.natural n))
  string : ∀ s, C (.string s)
  array : ∀ {vs}, (∀ v ∈ vs, C v) → C (.array vs)
  object : ∀ {ms : List (String × Json)}, (ms.map (·.1)).Nodup → (∀ m ∈ ms, C m.2) → C (.object ms)

theorem Json.admits_integral : Json.Admits Json.Integral :=
  ⟨.null, .bool, .natural, .string, .array, fun _ h => .object h⟩

theorem Json.admits_distinct : Json.Admits Json.Distinct :=
  ⟨.null, .bool, fun _ => .number _, .string, .array, .object⟩

section Data

variable {C : Json → Prop} (hC : Json.Admits C)

include hC

theorem Json.Admits.ofList {α : Type} {f : α → Json} {as : List α} (h : ∀ a ∈ as, C (f a)) :
    C (.ofList f as) :=
  hC.array (List.forall_mem_map.mpr h)

theorem Json.Admits.ofOption (s : Option String) : C (.ofOption s) := by
  cases s with
  | none => exact hC.null
  | some s => exact hC.string s

theorem Controls.admits_toJson (c : Controls) : C c.toJson := by
  refine hC.object (by simp) ?_
  simp only [List.forall_mem_cons, hC.bool, hC.string, true_and]
  exact List.forall_mem_nil _

theorem Stop.admits_toJson (s : Stop) : C s.toJson := by
  refine hC.object (by simp) ?_
  simp only [List.forall_mem_cons, VisitTime.toJson, hC.string, true_and]
  exact List.forall_mem_nil _

theorem Plan.admits_toJson {p : Plan} (h : C p.spec) : C p.toJson := by
  have hstops : C (.ofList Stop.toJson p.stops) := hC.ofList fun s _ => s.admits_toJson hC
  refine hC.object (by simp) ?_
  simp only [List.forall_mem_cons, hC.bool, hC.string, hstops, h, true_and]
  exact List.forall_mem_nil _

theorem ShownPlan.admits_toJson {p : ShownPlan} (h : C p.plan.spec) : C p.toJson := by
  refine hC.object (by simp) ?_
  simp only [List.forall_mem_cons, Json.count, hC.natural, hC.string, hC.ofOption, p.controls.admits_toJson hC,
    Plan.admits_toJson hC h, true_and]
  exact List.forall_mem_nil _

theorem LoadState.admits_toJson (l : LoadState) : C l.toJson := by
  cases l with
  | exhausted => exact hC.string _
  | more busy =>
    have hbusy : C (.object [("busy", .bool busy)]) :=
      hC.object (by simp) (List.forall_mem_singleton.mpr (hC.bool busy))
    exact hC.object (by simp) (List.forall_mem_singleton.mpr hbusy)

/-- **Data is in a class** if what the planner was asked for is. -/
theorem Snapshot.admits_toJson {s : Snapshot} (h : ∀ p ∈ s.plans, C p.plan.spec) : C s.toJson := by
  have hplans : C (.ofList ShownPlan.toJson s.plans) := hC.ofList fun p hp => p.admits_toJson hC (h p hp)
  refine hC.object (by simp) ?_
  simp only [List.forall_mem_cons, Json.count, hC.natural, hC.string, s.loadState.admits_toJson hC, hplans, true_and]
  exact List.forall_mem_nil _

end Data

theorem Snapshot.document_eq (s : Snapshot) : ∃ body, s.toJson.document.toList = body ++ ['}', '\n'] := by
  obtain ⟨body, hbody⟩ : ∃ body, s.toJson.spreadAt 0 = body ++ ['}'] := ⟨_, rfl⟩
  refine ⟨body, ?_⟩
  rw [Json.document, Json.spread, String.toList_append, String.toList_ofList, hbody, List.append_assoc]
  rfl

/-! ## Both -/

namespace Session

theorem not_moreVisible (s : Session) : (!s.moreVisible) = decide (s.loadState = .exhausted) := by
  cases h : s.loadState <;> simp [moreVisible, h]

/-- **The page and the data of a session agree.**  In every state:

* the data lists the plans that are there and shown, each once and in order, with its link and its controls, and the
  shown fragments are those of the listed plans;
* the page is made of these fragments, one after the other, between the same front and the same end as ever, and its end
  has the control that loads more, which is hidden exactly if the data says that there is nothing more;
* if what the planner was asked for has no doubles, the data is read back, whatever its nesting, with the members of
  each object in the order of their names, which is the same value;
* the text of the data ends in one newline. -/
theorem page_and_data_agree (s : Session) (hs : s.Reachable) :
    let data := s.snapshot
    let page := (s.output .html).toList
    data.plans.map (·.index) = List.range (min s.shown s.available) ∧
      (∀ p ∈ data.plans, s.plan? p.index = some p.plan ∧ s.controls[p.index]? = some p.controls ∧
        p.detailLink = s.detailLink p.index) ∧
      s.shownFragments = data.plans.map (fun p => Fragment.ofPlan p.plan p.index p.detailLink p.controls) ∧
      page = Html.chars (Page.beforeItems s.title s.user) ++
        s.shownFragments.flatMap (fun f => f.html.toList) ++
        Html.chars (Page.afterItems (decide (data.loadState = .exhausted))) ∧
      (∀ hidden, Html.chars (Page.afterItems hidden) <:+ page ↔ hidden = decide (data.loadState = .exhausted)) ∧
      ((∀ p ∈ data.plans, p.plan.spec.Integral) → ∀ depth, data.toJson.nesting ≤ depth →
        Json.readAll (fun _ => Json.readValue depth) (Json.sourceOf (s.output .json)) = .ok data.toJson.sorted) ∧
      ((∀ p ∈ data.plans, p.plan.spec.Distinct) → data.toJson.Same data.toJson.sorted) ∧
      ∃ body, (s.output .json).toList = body ++ ['}', '\n'] := by
  intro data page
  have hpage : page = Html.chars (Page.beforeItems s.title s.user) ++
      s.shownFragments.flatMap (fun f => f.html.toList) ++
      Html.chars (Page.afterItems (decide (data.loadState = .exhausted))) := by
    show s.document.toList = _
    rw [document, resultsPage_toList, List.flatMap_map, not_moreVisible]
    rfl
  refine ⟨hs.fits.indices_snapshot, fun p hp => mem_plans_snapshot hp, hs.fits.shownFragments_eq, hpage, ?_, ?_, ?_,
    data.document_eq⟩
  · intro hidden
    have hend : Html.chars (Page.afterItems (decide (data.loadState = .exhausted))) <:+ page :=
      hpage ▸ List.suffix_append _ _
    constructor
    · intro h
      exact Page.afterItems_inj h hend
    · intro h
      exact h ▸ hend
  · intro hspecs depth hdepth
    exact Json.readAll_document (Snapshot.admits_toJson Json.admits_integral hspecs) hdepth
  · intro hspecs
    exact Json.same_sorted (Snapshot.admits_toJson Json.admits_distinct hspecs)

/-- Two plans, the second of which was asked for by a number of days. -/
theorem page_and_data_of_two_plans :
    let plans := [Plan.named "a", { Plan.named "b" with spec := .object [("days", .count 2)] }]
    let s := (start default "guest" 2 1).after (.ready (some ⟨plans, [], ""⟩))
    let data := s.snapshot
    s.Reachable ∧ (∀ p ∈ data.plans, p.plan.spec.Integral) ∧
      data.plans.map (·.index) = List.range 2 ∧
      Json.readAll (fun _ => Json.readValue data.toJson.nesting) (Json.sourceOf (s.output .json)) =
        .ok data.toJson.sorted := by
  intro plans s data
  have hs : s.Reachable := (Reachable.start default "guest" 2 1).after _
  have hplans : data.plans.map (·.plan) = plans := hs.fits.plans_snapshot rfl
  have hdays : (Json.object [("days", .count 2)]).Integral :=
    .object (List.forall_mem_singleton.mpr (.natural _))
  have hintegral : ∀ plan ∈ plans, plan.spec.Integral :=
    List.forall_mem_cons.mpr ⟨.null, List.forall_mem_singleton.mpr hdays⟩
  have hspecs : ∀ p ∈ data.plans, p.plan.spec.Integral :=
    fun p hp => hintegral p.plan (hplans ▸ List.mem_map_of_mem hp)
  obtain ⟨hindices, -, -, -, -, hread, -⟩ := page_and_data_agree s hs
  exact ⟨hs, hspecs, hindices, hread hspecs _ (Nat.le_refl _)⟩

end Session

end PlanBrowser

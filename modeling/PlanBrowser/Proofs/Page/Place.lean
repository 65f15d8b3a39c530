import Mathlib.Data.List.Nodup
import PlanBrowser.Proofs.Page.Element

/-!
# Where the controls of a page stand

The bindings of a page say for each control which element it is and which plan it acts on.  An element is found by its
id, so the ids of the controls have to differ, and each of them has to stand in the page once: the page has other ids
that begin alike, and it has texts that look like ids.  The page is read part by part.

* `PlanItem.places_heading`, `PlanItem.places_toolbar`, … — the parts of an item;
* `places_planItem` — **an item has each of its controls once**;
* `Session.Fits.places_document` — so has the page, for each shown plan;
* `Session.shownBindings` — the bindings of all shown plans;
* `Session.bindings_find_elements` — **each binding finds one element**.
-/

namespace PlanBrowser

open Html (Piece number flag chars escapeChars toList_literal chars_nil chars_cons_markup chars_cons_text
  chars_cons_number chars_append)

/-! ## The parts of an item

A template is opened to the characters of its literals.  What is left is read from the front, by the rules of
`ElementId.places`, and these stop at nothing but an id.
-/

namespace PlanItem

set_option maxRecDepth 4000

variable (k : ElementId) (rest : List Char)

theorem places_heading (p : Plan) (i : Nat) : k.places (chars (heading p i) ++ rest) = k.places rest := by
  simp only [heading, chars_cons_markup, chars_cons_text, chars_cons_number, chars_nil, toList_literal,
    List.append_assoc, List.nil_append, List.cons_append]
  simp

theorem places_row (s : Stop) : k.places (chars (row s) ++ rest) = k.places rest := by
  simp only [row, chars_cons_markup, chars_cons_text, chars_nil, toList_literal, List.append_assoc,
    List.nil_append, List.cons_append]
  simp

theorem places_rows (stops : List Stop) : k.places (chars (stops.flatMap row) ++ rest) = k.places rest := by
  induction stops with
  | nil => rfl
  | cons s stops ih => rw [List.flatMap_cons, chars_append, List.append_assoc, places_row, ih]

theorem places_table (stops : List Stop) : k.places (chars (table stops) ++ rest) = k.places rest := by
  simp only [table, chars_append, chars_cons_markup, chars_nil, toList_literal, List.append_assoc,
    List.nil_append, List.cons_append]
  simp [places_rows]

theorem quote_not_mem_looks :
    ∀ look ∈ [likeLook, dislikeLook, refreshLook, saveLook], '"' ∉ look.style.toList ∧ '"' ∉ look.icon.toList := by
  simp only [likeLook, dislikeLook, refreshLook, saveLook, List.forall_mem_cons, toList_literal]
  simp

theorem places_button (l : ElementId) {look : Look} (h : look ∈ [likeLook, dislikeLook, refreshLook, saveLook])
    (disabled visible : Bool) :
    k.places (chars (button l look disabled visible) ++ rest) = (if k = l then 1 else 0) + k.places rest := by
  obtain ⟨hstyle, hicon⟩ := quote_not_mem_looks look h
  cases disabled <;> cases visible <;>
    simp only [button, flag, chars_cons_markup, chars_cons_text, chars_nil, toList_literal, List.append_assoc,
      List.nil_append, List.cons_append, Bool.not_true, Bool.not_false, if_true, Bool.false_eq_true, if_false] <;>
    simp [hstyle, hicon]

/-- One more blank before a control, which itself begins with blanks. -/
theorem places_blank_button (l : ElementId) (look : Look) (disabled visible : Bool) :
    k.places (' ' :: (chars (button l look disabled visible) ++ rest)) =
      k.places (chars (button l look disabled visible) ++ rest) := by
  simp only [button, chars_cons_markup, toList_literal, List.append_assoc, List.cons_append]
  exact k.places_skip_blank (by decide)

theorem places_toolbar (i : Nat) (link : String) (c : Controls) :
    k.places (chars (toolbar i link c) ++ rest) = (if k.index = i then 1 else 0) + k.places rest := by
  have hcontrols : k.places (chars (toolbar i link c) ++ rest) =
      (if k = ⟨.like, i⟩ then 1 else 0) + ((if k = ⟨.dislike, i⟩ then 1 else 0) +
        ((if k = ⟨.refresh, i⟩ then 1 else 0) + ((if k = ⟨.save, i⟩ then 1 else 0) +
          ((if k = ⟨.summary, i⟩ then 1 else 0) + k.places rest)))) := by
    cases hdisabled : c.summaryDisabled <;>
      simp only [toolbar, flag, hdisabled, chars_append, chars_cons_markup, chars_cons_text, chars_cons_number,
        chars_nil, toList_literal, List.append_assoc, List.nil_append, List.cons_append, if_true,
        Bool.false_eq_true, if_false] <;>
      simp [places_button, places_blank_button]
  obtain ⟨control, j⟩ := k
  rw [hcontrols]
  by_cases hj : j = i <;> cases control <;> simp [hj]

theorem places_dialog (i : Nat) (c : Controls) : k.places (chars (dialog i c) ++ rest) = k.places rest := by
  simp only [dialog, chars_cons_markup, chars_cons_text, chars_cons_number, chars_nil, toList_literal,
    List.append_assoc, List.nil_append, List.cons_append]
  simp

end PlanItem

/-- **Where the controls of an item stand**: each once, and nothing else does. -/
theorem places_planItem (k : ElementId) (rest : List Char) (p : Plan) (i : Nat) (link : String) (c : Controls) :
    k.places (chars (planItem p i link c) ++ rest) = (if k.index = i then 1 else 0) + k.places rest := by
  simp only [planItem, chars_append, List.append_assoc]
  rw [PlanItem.places_heading, PlanItem.places_table, PlanItem.places_toolbar, PlanItem.places_dialog]

/-! ## Before and after the items -/

namespace Page

set_option maxRecDepth 4000

variable (k : ElementId)

theorem places_beforeItems (destination user : String) (rest : List Char) :
    k.places (chars (beforeItems destination user) ++ rest) = k.places rest := by
  simp only [beforeItems, head, opening, chars_cons_markup, chars_cons_text, chars_nil, toList_literal,
    List.append_assoc, List.nil_append, List.cons_append]
  simp

theorem places_afterItems (hidden : Bool) : k.places (chars (afterItems hidden)) = 0 := by
  cases hidden <;>
    simp only [afterItems, moreLooks, flag, foot, chars_cons_markup, chars_nil, toList_literal, List.nil_append,
      List.cons_append, if_true, Bool.false_eq_true, if_false] <;>
    simp

end Page

/-! ## The results page -/

theorem places_fragments (k : ElementId) (plans : List ShownPlan) (rest : List Char) :
    k.places (plans.flatMap (fun p => p.fragment.html.toList) ++ rest) =
      (plans.map (·.index)).count k.index + k.places rest := by
  induction plans with
  | nil => rw [List.flatMap_nil, List.nil_append, List.map_nil, List.count_nil, Nat.zero_add]
  | cons p plans ih =>
    have hitem : p.fragment.html.toList = chars (planItem p.plan p.index p.detailLink p.controls) :=
      String.toList_ofList
    rw [List.flatMap_cons, List.append_assoc, hitem, places_planItem, ih, List.map_cons, List.count_cons]
    simp only [beq_iff_eq, eq_comm (a := k.index)]
    omega

/-- **Where the controls of a page stand**: those of the shown plans each once, and no others. -/
theorem Session.Fits.places_document {s : Session} (h : s.Fits) (k : ElementId) :
    k.places s.document.toList = if k.index < s.visible then 1 else 0 := by
  rw [document, resultsPage_toList, List.append_assoc, Page.places_beforeItems, List.flatMap_map, h.shownFragments_eq,
    List.flatMap_map, places_fragments, Page.places_afterItems, h.indices_snapshot, Nat.add_zero]
  by_cases hk : k.index < s.visible
  · rw [if_pos hk, List.count_eq_one_of_mem List.nodup_range (List.mem_range.mpr hk)]
  · rw [if_neg hk, List.count_eq_zero_of_not_mem fun hmem => hk (List.mem_range.mp hmem)]

/-! ## Bindings -/

/-- In a list whose keys differ, what has the key of one of its members is that member. -/
theorem filter_key_eq_singleton {α β : Type} [DecidableEq β] {key : α → β} {as : List α} {a : α}
    (h : (as.map key).Nodup) (ha : a ∈ as) : as.filter (fun b => key b = key a) = [a] := by
  obtain ⟨front, rest, rfl⟩ := List.append_of_mem ha
  rw [List.map_append, List.map_cons, List.nodup_append, List.nodup_cons] at h
  obtain ⟨-, ⟨hrest, -⟩, hfront⟩ := h
  have hfront' : front.filter (fun b => key b = key a) = [] := by
    refine List.filter_eq_nil_iff.mpr fun b hb => ?_
    simpa using hfront (key b) (List.mem_map_of_mem hb) (key a) List.mem_cons_self
  have hrest' : rest.filter (fun b => key b = key a) = [] := by
    refine List.filter_eq_nil_iff.mpr fun b hb hkey => hrest ?_
    exact of_decide_eq_true hkey ▸ List.mem_map_of_mem hb
  simp only [List.filter_append, hfront', List.filter_cons, decide_true, if_true, hrest', List.nil_append]

namespace Session

/-- The bindings of all shown plans. -/
def shownBindings (s : Session) : List Binding :=
  s.shownFragments.flatMap (·.bindings)

theorem Fits.shownBindings_eq {s : Session} (h : s.Fits) :
    s.shownBindings =
      s.snapshot.plans.flatMap fun p => Control.all.map fun control => ⟨⟨control, p.index⟩, p.plan.id⟩ := by
  rw [shownBindings, h.shownFragments_eq, List.flatMap_map]
  rfl

theorem Fits.keys_shownBindings {s : Session} (h : s.Fits) :
    s.shownBindings.map (·.key) =
      (List.range s.visible).flatMap fun i => Control.all.map fun control => ⟨control, i⟩ := by
  rw [h.shownBindings_eq, List.map_flatMap, ← h.indices_snapshot, List.flatMap_map]
  simp only [List.map_map]
  rfl

theorem Fits.nodup_keys {s : Session} (h : s.Fits) : (s.shownBindings.map (·.key)).Nodup := by
  rw [h.keys_shownBindings, List.nodup_flatMap]
  constructor
  · intro i _
    refine List.Nodup.map ?_ (by decide)
    intro a b hab
    exact congrArg ElementId.control hab
  · refine List.nodup_range.imp ?_
    intro i j hij k hi hj
    obtain ⟨a, -, rfl⟩ := List.mem_map.mp hi
    obtain ⟨b, -, hb⟩ := List.mem_map.mp hj
    exact hij (congrArg ElementId.index hb).symm

theorem Fits.mem_shownBindings {s : Session} (h : s.Fits) (control : Control) {i : Nat} (hi : i < s.visible) :
    ∃ p, s.plan? i = some p ∧ ⟨⟨control, i⟩, p.id⟩ ∈ s.shownBindings := by
  have hindex : i ∈ s.snapshot.plans.map (·.index) := by
    rw [h.indices_snapshot]
    exact List.mem_range.mpr hi
  obtain ⟨p, hp, rfl⟩ := List.mem_map.mp hindex
  refine ⟨p.plan, (mem_plans_snapshot hp).1, ?_⟩
  rw [h.shownBindings_eq]
  have hcontrol : control ∈ Control.all := by
    cases control <;> decide
  exact List.mem_flatMap.mpr ⟨p, hp, List.mem_map.mpr ⟨control, hcontrol, rfl⟩⟩

/-- **Each binding finds one element.**  In every state:

* the keys of the bindings differ, and so do their written forms;
* each control of each shown plan has one binding, which carries the id of the plan, and there are no other bindings;
* the id of each of these controls is given to exactly one element of the page, and the id of a control of any other
  plan to none,

whatever the texts are that stand in the page. -/
theorem bindings_find_elements (s : Session) (hs : s.Reachable) :
    let shown := min s.shown s.available
    (s.shownBindings.map (·.key)).Nodup ∧
      (s.shownBindings.map (·.key.text)).Nodup ∧
      (∀ control i, i < shown → ∃ p, s.plan? i = some p ∧
        s.shownBindings.filter (·.key = ⟨control, i⟩) = [⟨⟨control, i⟩, p.id⟩]) ∧
      (∀ b ∈ s.shownBindings, b.key.index < shown) ∧
      ∀ k : ElementId, Text.occurrences (" id=\"" ++ k.text ++ "\"").toList s.document.toList =
        if k.index < shown then 1 else 0 := by
  intro shown
  have hkeys := hs.fits.nodup_keys
  refine ⟨hkeys, ?_, ?_, ?_, hs.fits.places_document⟩
  · have htexts : s.shownBindings.map (·.key.text) = (s.shownBindings.map (·.key)).map ElementId.text := by
      rw [List.map_map]
      rfl
    rw [htexts]
    exact hkeys.map fun k l => ElementId.text_inj
  · intro control i hi
    obtain ⟨p, hplan, hmem⟩ := hs.fits.mem_shownBindings control hi
    exact ⟨p, hplan, filter_key_eq_singleton hkeys hmem⟩
  · intro b hb
    have hkey := List.mem_map_of_mem (f := (·.key)) hb
    rw [hs.fits.keys_shownBindings] at hkey
    obtain ⟨i, hi, hcontrol⟩ := List.mem_flatMap.mp hkey
    obtain ⟨control, -, hcontrol⟩ := List.mem_map.mp hcontrol
    rw [← hcontrol]
    exact List.mem_range.mp hi

/-- Plans, links and a destination that look like ids, or like the beginning of an id. -/
theorem bindings_find_elements_among_hostile_texts :
    let plans := [Plan.named "save-0\" id=", Plan.named " id=\"save-0\""]
    let s := (start default " id=" 2 1).after (.ready (some ⟨plans, [" id=\"save-0\"", "save-0"], "save-0"⟩))
    s.Reachable ∧
      s.shownBindings.filter (·.key = ⟨.save, 0⟩) = [⟨⟨.save, 0⟩, "save-0\" id="⟩] ∧
      Text.occurrences " id=\"save-0\"".toList s.document.toList = 1 ∧
      Text.occurrences " id=\"save-2\"".toList s.document.toList = 0 := by
  intro plans s
  have hs : s.Reachable := (Reachable.start default " id=" 2 1).after _
  obtain ⟨-, -, hbinding, -, hplaces⟩ := bindings_find_elements s hs
  obtain ⟨p, hplan, hfilter⟩ := hbinding .save 0 (by decide)
  cases hplan
  exact ⟨hs, hfilter, hplaces ⟨.save, 0⟩, hplaces ⟨.save, 2⟩⟩

end Session

end PlanBrowser

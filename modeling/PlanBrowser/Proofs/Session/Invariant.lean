import PlanBrowser.Proofs.Session.Run

/-!
# What holds of a session in every state

Three operations put a new batch into a session, and each of them cuts or extends the controls and the failures of
saves.  They all end in `Session.settle`, which counts by the controls alone how many entries it adds to both lists;
so it keeps the two in step only if they were in step before.  If they were, a settled session has exactly one entry
in both for each plan that is there and shown.

* `Session.getElem?_controls_settle`, `Session.getElem?_saveErrors_settle` — the entries of each plan after
  settling;
* `Session.Fits` — the invariant: steps reveal something, no more plans are shown than there are, and the entries
  in both lists are those of the shown plans;
* `Session.Fits.after`, `Session.Fits.run` — one event keeps it, and so does a run;
* `Session.fits_run_start` — **the invariant of all runs**, with what it says of the load state.
-/

namespace PlanBrowser.Session

/-! ## Settling -/

@[simp] theorem settle_visible (s : Session) : s.settle.visible = s.visible := rfl

@[simp] theorem settle_plan? (s : Session) (i : Nat) : s.settle.plan? i = s.plan? i := rfl

theorem plan?_eq_none_iff (s : Session) (i : Nat) : s.plan? i = none ↔ s.available ≤ i := by
  cases hb : s.batch with
  | none => simp [plan?, available, hb]
  | some b => simp [plan?, available, Batch.size, hb]

/-- A plan that is there. -/
theorem exists_plan? {s : Session} {i : Nat} (h : i < s.available) : ∃ p, s.plan? i = some p := by
  cases hp : s.plan? i with
  | none => exact absurd ((s.plan?_eq_none_iff i).mp hp) (by omega)
  | some p => exact ⟨p, rfl⟩

theorem visible_le_available (s : Session) : s.visible ≤ s.available :=
  Nat.min_le_right _ _

theorem exists_plan?_of_lt_visible {s : Session} {i : Nat} (h : i < s.visible) : ∃ p, s.plan? i = some p :=
  exists_plan? (Nat.lt_of_lt_of_le h s.visible_le_available)

/-- The plans without controls are those that follow the ones with controls. -/
theorem getElem?_freshPlans (s : Session) (j : Nat) :
    s.freshPlans[j]? =
      if s.controls.length + j < s.shown then s.plan? (s.controls.length + j) else none := by
  cases hb : s.batch with
  | none => simp [freshPlans, plan?, hb]
  | some b =>
    simp only [freshPlans, plan?, hb, List.getElem?_drop, List.getElem?_take]

/-- The session with the entries of plans that are no longer shown taken away. -/
def cut (s : Session) : Session :=
  { s with
    controls := s.controls.take s.visible
    saveErrors := s.saveErrors.take s.visible }

/-- **The entry of each plan after settling**, in a list that is in step with the controls: a shown plan keeps its
entry, or gets a new one; there are no others. -/
theorem getElem?_take_append_freshPlans {α : Type} {s : Session} {entries : List α}
    (h : entries.length = s.controls.length) (new : Plan → α) (i : Nat) :
    (entries.take s.visible ++ s.cut.freshPlans.map new)[i]? =
      if i < s.visible then (entries[i]?).or ((s.plan? i).map new) else none := by
  have hlen : s.cut.controls.length = min s.visible s.controls.length := List.length_take
  have hfresh (j : Nat) : s.cut.freshPlans[j]? =
      if min s.visible s.controls.length + j < s.shown then
        s.plan? (min s.visible s.controls.length + j)
      else none := by
    rw [getElem?_freshPlans, hlen]
    rfl
  have hvis : s.visible = min s.shown s.available := rfl
  rw [List.getElem?_append, List.getElem?_take, List.length_take, h, List.getElem?_map, hfresh]
  by_cases hi : i < s.visible
  · rw [if_pos hi, if_pos hi]
    by_cases hs : i < s.controls.length
    · rw [if_pos (by omega), List.getElem?_eq_getElem (h ▸ hs), Option.some_or]
    · have hj : min s.visible s.controls.length + (i - min s.visible s.controls.length) = i := by omega
      rw [if_neg (by omega), List.getElem?_eq_none (by omega), Option.none_or, hj, if_pos (by omega)]
  · rw [if_neg hi, if_neg hi]
    by_cases hs : i < min s.visible s.controls.length
    · omega
    · -- beyond the shown plans there is no plan to make an entry for
      have hj : min s.visible s.controls.length + (i - min s.visible s.controls.length) = i := by omega
      rw [if_neg hs, hj]
      by_cases hshown : i < s.shown
      · rw [if_pos hshown, (s.plan?_eq_none_iff i).mpr (by omega)]
        rfl
      · rw [if_neg hshown]
        rfl

theorem getElem?_controls_settle (s : Session) (i : Nat) :
    s.settle.controls[i]? =
      if i < s.visible then (s.controls[i]?).or ((s.plan? i).map Controls.ofPlan) else none :=
  getElem?_take_append_freshPlans rfl Controls.ofPlan i

theorem getElem?_saveErrors_settle {s : Session} (h : s.saveErrors.length = s.controls.length) (i : Nat) :
    s.settle.saveErrors[i]? =
      if i < s.visible then (s.saveErrors[i]?).or ((s.plan? i).map fun _ => none) else none :=
  getElem?_take_append_freshPlans h (fun _ => none) i

/-- A list with an entry for each shown plan and no other is as long as there are shown plans. -/
theorem length_eq_visible {α : Type} {s : Session} {entries before : List α} {new : Plan → α}
    (h : ∀ i, entries[i]? =
      if i < s.visible then (before[i]?).or ((s.plan? i).map new) else none) :
    entries.length = s.visible := by
  have hbound (i : Nat) : entries.length ≤ i ↔ s.visible ≤ i := by
    rw [← List.getElem?_eq_none_iff, h]
    by_cases hi : i < s.visible
    · obtain ⟨p, hp⟩ := exists_plan?_of_lt_visible hi
      rw [if_pos hi, hp]
      cases before[i]? <;> simp [hi]
    · rw [if_neg hi]
      simp only [true_iff]
      omega
  have h₁ := (hbound s.visible).mpr (Nat.le_refl _)
  have h₂ := (hbound entries.length).mp (Nat.le_refl _)
  omega

/-! ## The invariant -/

/-- **What holds of a session in every state.** -/
structure Fits (s : Session) : Prop where
  /-- A step reveals something. -/
  pageSize_pos : 1 ≤ s.pageSize
  /-- No more plans are shown than there are, once there are any. -/
  shown_le : ∀ b, s.batch = some b → s.shown ≤ b.size
  /-- The entries in both lists are those of the shown plans. -/
  length_controls : s.controls.length = s.visible
  length_saveErrors : s.saveErrors.length = s.visible

theorem Fits.shown_le_available {s : Session} (h : s.Fits) (hb : s.batch ≠ none) :
    s.shown ≤ s.available := by
  cases hbatch : s.batch with
  | none => exact absurd hbatch hb
  | some b => simpa only [available, hbatch] using h.shown_le b hbatch

theorem fits_start (search : Search) (user : String) (shown pageSize : Nat) :
    (start search user shown pageSize).Fits where
  pageSize_pos := Nat.le_max_right _ _
  shown_le := by
    intro b hb
    cases hb
  length_controls := (Nat.min_zero shown).symm
  length_saveErrors := (Nat.min_zero shown).symm

/-- In a state that fits, the two lists are in step. -/
theorem Fits.length_eq {s : Session} (h : s.Fits) : s.saveErrors.length = s.controls.length :=
  h.length_saveErrors.trans h.length_controls.symm

/-- Settling makes two lists fit that are in step; the rest must fit before. -/
theorem fits_settle {s : Session} (hp : 1 ≤ s.pageSize)
    (hs : ∀ b, s.batch = some b → s.shown ≤ b.size) (hlen : s.saveErrors.length = s.controls.length) :
    s.settle.Fits where
  pageSize_pos := hp
  shown_le := hs
  length_controls := length_eq_visible s.getElem?_controls_settle
  length_saveErrors := length_eq_visible (getElem?_saveErrors_settle hlen)

/-- The mark of a fetch in flight is of no concern. -/
theorem Fits.pending {s : Session} (h : s.Fits) (p : Option Nat) :
    ({ s with pending := p } : Session).Fits :=
  ⟨h.pageSize_pos, h.shown_le, h.length_controls, h.length_saveErrors⟩

theorem fits_withBatch {s : Session} (hp : 1 ≤ s.pageSize) (hlen : s.saveErrors.length = s.controls.length)
    (b : Batch) : (s.withBatch b).Fits := by
  refine fits_settle ?_ ?_ ?_
  · exact hp
  · intro b' hb'
    cases hb'
    exact Nat.min_le_right _ _
  · exact hlen

theorem Fits.revealed {s : Session} (h : s.Fits) : s.revealed.Fits := by
  refine fits_settle ?_ ?_ ?_
  · exact h.pageSize_pos
  · intro b hb
    have hsize : s.available = b.size := by
      change s.batch = some b at hb
      simp only [available, hb]
    show min (Word.sum s.shown s.pageSize) s.available ≤ b.size
    omega
  · exact h.length_eq

theorem Fits.deepened {s : Session} (h : s.Fits) (count : Nat) (b : Batch) :
    (s.deepened count b).Fits := by
  refine fits_settle ?_ ?_ ?_
  · exact h.pageSize_pos
  · intro b' hb'
    cases hb'
    exact Nat.le_refl _
  · exact h.length_eq

theorem Fits.finishFetch {s : Session} (h : s.Fits) (r : Option Batch) :
    (s.after (.finishFetch r)).Fits := by
  rcases s.after_finishFetch_cases r with heq | ⟨count, b, -, -, -, heq⟩
  · rw [heq]
    exact h.pending none
  · rw [heq]
    exact h.deepened count b

/-- **In a state that fits, an action touches the entries of its plan**; if there are none, it does nothing. -/
theorem Fits.act_eq {s : Session} (h : s.Fits) (a : Action) :
    s.act a = { s with
      controls := s.controls.modify a.index a.touchControls
      saveErrors := s.saveErrors.modify a.index a.touchError } := by
  by_cases hi : a.index < s.visible
  · obtain ⟨p, hp⟩ := exists_plan?_of_lt_visible hi
    exact act_of_shown (by rw [h.length_controls]; exact hi) hp
  · have hlen : s.visible ≤ a.index := by omega
    rw [act_of_not_shown (by rw [h.length_controls]; exact hlen),
      List.modify_eq_self (by rw [h.length_controls]; exact hlen),
      List.modify_eq_self (by rw [h.length_saveErrors]; exact hlen)]

theorem Fits.act {s : Session} (h : s.Fits) (a : Action) : (s.act a).Fits := by
  rw [h.act_eq]
  refine ⟨h.pageSize_pos, h.shown_le, ?_, ?_⟩
  · exact (List.length_modify _ _ _).trans h.length_controls
  · exact (List.length_modify _ _ _).trans h.length_saveErrors

/-- **Every event keeps the invariant.** -/
theorem Fits.after {s : Session} (h : s.Fits) (e : Event) : (s.after e).Fits := by
  cases e with
  | ready r =>
    cases r with
    | none => exact h
    | some b => exact fits_withBatch h.pageSize_pos h.length_eq b
  | loadMore r =>
    by_cases hlt : s.shown < s.available
    · rw [after_loadMore_of_lt hlt]
      exact h.revealed
    · rw [after_loadMore_of_le (by omega)]
      exact (h.pending (some s.requested)).finishFetch r
  | beginFetch => exact h.pending _
  | finishFetch r => exact h.finishFetch r
  | refresh r =>
    cases r with
    | none => exact h
    | some b =>
      have hclear : 1 ≤ ({ s with controls := [], saveErrors := [] } : Session).pageSize :=
        h.pageSize_pos
      exact fits_withBatch hclear rfl b
  | act a => exact h.act a

theorem Fits.run {s : Session} (h : s.Fits) (es : List Event) : (s.run es).Fits := by
  induction es generalizing s with
  | nil => exact h
  | cons e es ih => exact ih (h.after e)

theorem Reachable.fits {s : Session} (h : s.Reachable) : s.Fits := by
  induction h with
  | start search user shown pageSize => exact fits_start search user shown pageSize
  | after _ e ih => exact ih.after e

/-! ## Before there are plans -/

theorem shown_finishFetch_of_batch_none {s : Session} {r : Option Batch}
    (h : (s.after (.finishFetch r)).batch = none) :
    s.batch = none ∧ (s.after (.finishFetch r)).shown = s.shown := by
  rcases s.after_finishFetch_cases r with heq | ⟨count, b, -, -, -, heq⟩
  · rw [heq] at h ⊢
    exact ⟨h, rfl⟩
  · rw [heq] at h
    cases h

/-- An event that leaves a session without plans found it so, and has not changed how many plans count as
shown. -/
theorem shown_after_of_batch_none {s : Session} {e : Event} (h : (s.after e).batch = none) :
    s.batch = none ∧ (s.after e).shown = s.shown := by
  cases e with
  | ready r =>
    cases r with
    | none => exact ⟨h, rfl⟩
    | some b => cases h
  | loadMore r =>
    by_cases hlt : s.shown < s.available
    · -- plans that can be revealed are plans of a batch
      rw [after_loadMore_of_lt hlt] at h
      change s.batch = none at h
      simp only [available, h] at hlt
      omega
    · rw [after_loadMore_of_le (by omega)] at h ⊢
      exact shown_finishFetch_of_batch_none h
  | beginFetch => exact ⟨h, rfl⟩
  | finishFetch r => exact shown_finishFetch_of_batch_none h
  | refresh r =>
    cases r with
    | none => exact ⟨h, rfl⟩
    | some b => cases h
  | act a => exact ⟨(s.act_batch a).symm.trans h, s.act_shown a⟩

theorem shown_run_of_batch_none {s : Session} {es : List Event} (h : (s.run es).batch = none) :
    s.batch = none ∧ (s.run es).shown = s.shown := by
  induction es generalizing s with
  | nil => exact ⟨h, rfl⟩
  | cons e es ih =>
    obtain ⟨hafter, hshown⟩ := ih h
    obtain ⟨hs, hafterShown⟩ := shown_after_of_batch_none hafter
    exact ⟨hs, hshown.trans hafterShown⟩

/-! ## The load state -/

theorem loadState_eq_exhausted_iff (s : Session) :
    s.loadState = .exhausted ↔ s.pending = none ∧ s.available ≤ s.shown := by
  unfold loadState
  cases s.pending with
  | some count => simp
  | none =>
    by_cases h : s.shown < s.available
    · simp [h]
    · simp only [Option.isSome_none, Bool.false_eq_true, if_false, if_neg h, true_and, true_iff]
      omega

/-- If there is more, it is being fetched exactly while a fetch is in flight. -/
theorem loadState_of_ne_exhausted {s : Session} (h : s.loadState ≠ .exhausted) :
    s.loadState = .more s.pending.isSome := by
  unfold loadState at h ⊢
  cases hp : s.pending with
  | some count => simp
  | none =>
    by_cases hlt : s.shown < s.available
    · simp [hlt]
    · simp [hp, hlt] at h

/-- Once there are plans, all of them are shown exactly if the two counts are equal. -/
theorem Fits.available_le_iff {s : Session} (h : s.Fits) :
    s.available ≤ s.shown ↔ s.batch = none ∨ s.shown = s.available := by
  by_cases hb : s.batch = none
  · simp [available, hb]
  · have hle := h.shown_le_available hb
    simp only [hb, false_or]
    omega

/-- **The invariant of all runs.**  Whatever is done to a session in whatever order, and whatever is replied:
a step reveals at least one plan; no more plans are shown than there are; there are controls and there is the
outcome of the last save for each plan that is there and shown, and no others; as long as nothing is fetched, as
many plans count as shown as at first; and there is nothing more to show exactly if no fetch is in flight and all
plans are shown, or else there is more, which is being fetched exactly while a fetch is in flight. -/
theorem fits_run_start (search : Search) (user : String) (initial pageSize : Nat) (es : List Event) :
    let s := (start search user initial pageSize).run es
    1 ≤ s.pageSize ∧
      (∀ b, s.batch = some b → s.shown ≤ b.plans.length) ∧
      s.controls.length = min s.shown s.available ∧
      s.saveErrors.length = min s.shown s.available ∧
      (s.batch = none → s.shown = initial) ∧
      (s.loadState = .exhausted ↔ s.pending = none ∧ (s.batch = none ∨ s.shown = s.available)) ∧
      (s.loadState ≠ .exhausted → s.loadState = .more s.pending.isSome) := by
  intro s
  have hfits : s.Fits := (fits_start search user initial pageSize).run es
  refine ⟨hfits.pageSize_pos, hfits.shown_le, hfits.length_controls, hfits.length_saveErrors, ?_, ?_,
    loadState_of_ne_exhausted⟩
  · intro hb
    exact (shown_run_of_batch_none hb).2
  · rw [loadState_eq_exhausted_iff, hfits.available_le_iff]

end PlanBrowser.Session

import PlanBrowser.Proofs.Session.History

/-!
# Whose controls they are

Controls go by position.  A batch that replaces another one may list other plans in the same positions, or the
same plans with another mark of being saved, and the controls of the plans that stay shown are kept all the same.
So controls may be shown with a plan that they were not made for.

Controls belong to the plan that they are shown with if a saved plan cannot be saved again, and if the
summary in the dialog was asked for that very plan.  They do exactly if no batch has come between: the plan that
they were made for was saved, or an attempt to save has been made since; and where the summary was asked for stood a
plan with the same id.

* `Life.lastSummary?` — the last request for a summary;
* `Life.SummaryOf`, `Life.SummaryMet` — the plan that the request named, and the plan that stood there;
* `Life.Shown` — the deeds of a life were done to a shown plan;
* `Session.controls_belong_iff` — **when the controls belong to the plan that they are shown with**;
* `Session.controls_of_another_plan` — a run after which they do not;
* `Session.controls_belong_of_steadyRun` — they do as long as no batch renames a shown plan or marks it as saved.
-/

namespace PlanBrowser

/-- What was asked in a deed. -/
def Deed.question? (d : Deed) : Option Question :=
  d.session.question? d.action

namespace Life

/-- The last request for a summary. -/
def lastSummary? (l : Life) : Option Deed :=
  l.deeds.reverse.find? (·.action.summaryReply?.isSome)

/-- **The text comes from a summary of the plan with an id**: the reply to the last request, and the request
named the plan. -/
def SummaryOf (l : Life) (text id : String) : Prop :=
  ∃ d, l.lastSummary? = some d ∧ d.action.summaryReply?.map summaryText = some text ∧
    d.question? = some (.summary ⟨id⟩)

/-- When a summary was last asked for, the plan with an id stood at index `i`. -/
def SummaryMet (l : Life) (i : Nat) (id : String) : Prop :=
  ∃ d q, l.lastSummary? = some d ∧ d.session.plan? i = some q ∧ q.id = id

/-- The deeds of a life were done to its plan while it was shown. -/
def Shown (l : Life) (i : Nat) : Prop :=
  ∀ d ∈ l.deeds, d.action.index = i ∧ i < d.session.controls.length ∧ ∃ q, d.session.plan? i = some q

theorem shown_ofPlan (p : Plan) (i : Nat) : (Life.ofPlan p).Shown i := by
  intro d hd
  cases hd

theorem Shown.heed {l : Life} {i : Nat} (h : l.Shown i) {s : Session} (hs : s.Fits) (hi : i < s.visible)
    (e : Event) : (l.heed s i e).Shown i := by
  cases e with
  | act a =>
    simp only [Life.heed]
    split
    · rename_i ha
      intro d hd
      rw [List.mem_append, List.mem_singleton] at hd
      rcases hd with hd | rfl
      · exact h d hd
      · refine ⟨ha, ?_, Session.exists_plan?_of_lt_visible hi⟩
        rw [hs.length_controls]
        exact hi
    · exact h
  | _ => exact h

/-- A summary in the dialog is the text of the last reply to a request. -/
theorem exists_lastSummary? {l : Life} (h : l.slot.controls.summaryBody ≠ "") :
    ∃ d ∈ l.deeds, l.lastSummary? = some d ∧
      d.action.summaryReply?.map summaryText = some l.slot.controls.summaryBody := by
  have hbody := l.summaryBody_slot
  cases hlast : l.summaries.getLast? with
  | none =>
    rw [hlast] at hbody
    exact absurd hbody h
  | some r =>
    rw [hlast] at hbody
    rw [summaries, List.getLast?_filterMap, List.findSome?_eq_some_iff] at hlast
    obtain ⟨later, d, earlier, hdeeds, hreply, hnone⟩ := hlast
    have hmem : d ∈ l.deeds := by
      rw [← List.mem_reverse, hdeeds]
      exact List.mem_append_right _ List.mem_cons_self
    refine ⟨d, hmem, ?_, ?_⟩
    · rw [lastSummary?, List.find?_eq_some_iff_append]
      refine ⟨by rw [hreply]; rfl, later, earlier, hdeeds, ?_⟩
      intro d' hd'
      rw [hnone d' hd']
      rfl
    · rw [hbody, hreply]
      rfl

/-- The request for a summary names the plan that stood there. -/
theorem Shown.question? {l : Life} {i : Nat} (h : l.Shown i) {d : Deed} (hd : d ∈ l.deeds)
    (hsummary : d.action.summaryReply?.isSome = true) :
    ∃ q, d.session.plan? i = some q ∧ d.question? = some (.summary ⟨q.id⟩) := by
  obtain ⟨hindex, hlen, q, hq⟩ := h d hd
  refine ⟨q, hq, ?_⟩
  obtain ⟨s, a⟩ := d
  cases a with
  | summarise j r =>
    obtain rfl : j = i := hindex
    change j < s.controls.length at hlen
    change s.plan? j = some q at hq
    show (s.summarise j).question? = some (.summary ⟨q.id⟩)
    simp only [Session.summarise, if_pos hlen, Session.plan?_updateControls, hq]
    rfl
  | _ => cases hsummary

/-- **A summary in the dialog was asked for the plan with an id exactly if that plan stood there.** -/
theorem Shown.summaryOf_iff {l : Life} {i : Nat} (h : l.Shown i)
    (hbody : l.slot.controls.summaryBody ≠ "") (id : String) :
    l.SummaryOf l.slot.controls.summaryBody id ↔ l.SummaryMet i id := by
  obtain ⟨d, hd, hlast, htext⟩ := exists_lastSummary? hbody
  obtain ⟨r, hr, -⟩ := Option.map_eq_some_iff.mp htext
  obtain ⟨q, hq, hasked⟩ := h.question? hd (by rw [hr]; rfl)
  constructor
  · rintro ⟨d', hlast', -, hasked'⟩
    obtain rfl : d = d' := Option.some.inj (hlast.symm.trans hlast')
    have hid : some (Question.summary ⟨q.id⟩) = some (.summary ⟨id⟩) := hasked.symm.trans hasked'
    simp only [Option.some.injEq, Question.summary.injEq, SummaryRequest.mk.injEq] at hid
    exact ⟨d, q, hlast, hq, hid⟩
  · rintro ⟨d', q', hlast', hq', hid⟩
    obtain rfl : d = d' := Option.some.inj (hlast.symm.trans hlast')
    obtain rfl : q = q' := Option.some.inj (hq.symm.trans hq')
    exact ⟨d, hlast, htext, hid ▸ hasked⟩

end Life

namespace Session

theorem Fits.shown_lifeAfter {s : Session} (h : s.Fits) {i : Nat} {l : Option Life}
    (hl : ∀ life, l = some life → life.Shown i) (e : Event) (life : Life)
    (hlife : s.lifeAfter i l e = some life) : life.Shown i := by
  simp only [lifeAfter] at hlife
  split at hlife
  · split at hlife
    · obtain ⟨p, -, rfl⟩ := Option.map_eq_some_iff.mp hlife
      exact Life.shown_ofPlan p i
    · rename_i hkept
      obtain ⟨before, hbefore, rfl⟩ := Option.map_eq_some_iff.mp hlife
      have hi : i < s.visible := Nat.lt_of_not_le fun hle => hkept (.inl hle)
      exact (hl before hbefore).heed h hi e
  · cases hlife

theorem Fits.shown_lifeFrom {s : Session} (h : s.Fits) {i : Nat} {l : Option Life}
    (hl : ∀ life, l = some life → life.Shown i) (es : List Event) (life : Life)
    (hlife : s.lifeFrom i l es = some life) : life.Shown i := by
  induction es generalizing s l with
  | nil => exact hl life hlife
  | cons e es ih => exact ih (h.after e) (h.shown_lifeAfter hl e) hlife

theorem shown_of_life {search : Search} {user : String} {initial pageSize : Nat} {es : List Event}
    {i : Nat} {life : Life} (hlife : (start search user initial pageSize).life i es = some life) :
    life.Shown i := by
  refine (fits_start search user initial pageSize).shown_lifeFrom (l := none) ?_ es life hlife
  intro l hl
  cases hl

/-- **When controls belong to the plan that they are shown with.**  A saved plan cannot be saved again exactly if
the plan that the controls were made for was saved, or an attempt to save has been made since; and a
summary in the dialog was asked for the plan that it is shown with exactly if a plan with the same id stood there
when the summary was asked for. -/
theorem controls_belong_iff (search : Search) (user : String) (initial pageSize : Nat) (es : List Event)
    (i : Nat) (hi : i < ((start search user initial pageSize).run es).visible) :
    let s := (start search user initial pageSize).run es
    ∃ life controls p, (start search user initial pageSize).life i es = some life ∧
      s.controls[i]? = some controls ∧ s.plan? i = some p ∧
      ((p.saved = true → controls.saveDisabled = true) ↔
        (p.saved = true → life.plan.saved = true ∨ ∃ r, r ∈ life.saves)) ∧
      ((controls.summaryBody ≠ "" → life.SummaryOf controls.summaryBody p.id) ↔
        (controls.summaryBody ≠ "" → life.SummaryMet i p.id)) := by
  intro s
  have hfits : s.Fits := (fits_start search user initial pageSize).run es
  obtain ⟨p, hp⟩ := exists_plan?_of_lt_visible hi
  obtain ⟨life, hlife, hslot⟩ := exists_life hi
  have hshown : life.Shown i := shown_of_life hlife
  obtain ⟨hcontrols, -⟩ := getElem?_slots_eq_some_iff.mp hslot
  refine ⟨life, life.slot.controls, p, hlife, hcontrols, hp, ?_, ?_⟩
  · rw [life.saveDisabled_slot]
  · exact forall_congr' fun hbody => hshown.summaryOf_iff hbody p.id

/-- A step fetches a batch in which the plan that is shown has become a saved one: the condition fails, and the
plan can be saved again. -/
theorem controls_belong_iff_other_mark :
    let es : List Event := [.ready (some ⟨[Plan.named "a"], [], ""⟩),
      .loadMore (some ⟨[{ Plan.named "a" with saved := true }, Plan.named "b"], [], ""⟩)]
    let s := (start default "guest" 1 5).run es
    0 < s.visible ∧
      ∃ life controls p, (start default "guest" 1 5).life 0 es = some life ∧
        s.controls[0]? = some controls ∧ s.plan? 0 = some p ∧
        ((p.saved = true → controls.saveDisabled = true) ↔
          (p.saved = true → life.plan.saved = true ∨ ∃ r, r ∈ life.saves)) ∧
        ((controls.summaryBody ≠ "" → life.SummaryOf controls.summaryBody p.id) ↔
          (controls.summaryBody ≠ "" → life.SummaryMet 0 p.id)) := by
  intro es s
  have hvisible : 0 < s.visible := by decide
  exact ⟨hvisible, controls_belong_iff default "guest" 1 5 es 0 hvisible⟩

/-- **Another batch can take both away.**  A summary of the plan `a` is asked for; then a step fetches a batch that
lists the saved plan `b` in its place.  The saved plan can be saved again, and it is shown with the summary of the
other. -/
theorem controls_of_another_plan :
    let b : Plan := { Plan.named "b" with saved := true }
    let es : List Event := [.ready (some ⟨[Plan.named "a"], [], ""⟩),
      .act (.summarise 0 (.ok ⟨"By the sea."⟩)), .loadMore (some ⟨[b, Plan.named "a"], [], ""⟩)]
    let s := (start default "guest" 1 5).run es
    ∃ life controls, (start default "guest" 1 5).life 0 es = some life ∧
      s.controls[0]? = some controls ∧ s.plan? 0 = some b ∧
      ¬ (b.saved = true → controls.saveDisabled = true) ∧
      ¬ (controls.summaryBody ≠ "" → life.SummaryOf controls.summaryBody b.id) := by
  intro b es s
  refine ⟨_, _, rfl, rfl, rfl, by decide, ?_⟩
  intro h
  obtain ⟨d, hlast, -, hasked⟩ := h (by decide)
  obtain rfl := Option.some.inj hlast
  change some (Question.summary ⟨"a"⟩) = some (.summary ⟨"b"⟩) at hasked
  simp only [Option.some.injEq, Question.summary.injEq, SummaryRequest.mk.injEq] at hasked
  exact absurd hasked (by decide)

/-! ## Steady batches -/

/-- The plans that stay shown in an event keep their ids, and none of them becomes a saved one. -/
def Steady (s : Session) (e : Event) : Prop :=
  e.renews = false → ∀ i p q, i < s.visible → s.plan? i = some p → (s.after e).plan? i = some q →
    q.id = p.id ∧ (q.saved = true → p.saved = true)

/-- All events of a run are steady. -/
def SteadyRun (s : Session) : List Event → Prop
  | [] => True
  | e :: es => s.Steady e ∧ (s.after e).SteadyRun es

end Session

/-- A plan that a life has met under its own id all along, and that is saved only if it was at first. -/
structure Life.Follows (l : Life) (i : Nat) (p : Plan) : Prop where
  saved : p.saved = true → l.plan.saved = true
  met : ∀ d ∈ l.deeds, ∃ q, d.session.plan? i = some q ∧ q.id = p.id

/-- A plan goes on to be the same in a steady event. -/
theorem Life.Follows.heed {l : Life} {s : Session} {i : Nat} {e : Event} {p q : Plan} (h : l.Follows i p)
    (hp : s.plan? i = some p) (hid : q.id = p.id) (hsaved : q.saved = true → p.saved = true) :
    (l.heed s i e).Follows i q := by
  have hkept : l.Follows i q := by
    refine ⟨fun hq => h.saved (hsaved hq), ?_⟩
    intro d hd
    obtain ⟨q', hq', hid'⟩ := h.met d hd
    exact ⟨q', hq', hid'.trans hid.symm⟩
  cases e with
  | act a =>
    simp only [Life.heed]
    split
    · refine ⟨hkept.saved, ?_⟩
      intro d hd
      rw [List.mem_append, List.mem_singleton] at hd
      rcases hd with hd | rfl
      · exact hkept.met d hd
      · exact ⟨p, hp, hid.symm⟩
    · exact hkept
  | _ => exact hkept

namespace Session

theorem follows_lifeAfter {s : Session} {i : Nat} {l : Option Life}
    (hl : ∀ life, l = some life → ∀ p, s.plan? i = some p → life.Follows i p) {e : Event}
    (he : s.Steady e) (life : Life) (hlife : s.lifeAfter i l e = some life) (q : Plan)
    (hq : (s.after e).plan? i = some q) : life.Follows i q := by
  simp only [lifeAfter] at hlife
  split at hlife
  · split at hlife
    · rw [hq] at hlife
      obtain rfl := Option.some.inj hlife
      refine ⟨id, ?_⟩
      intro d hd
      cases hd
    · rename_i hkept
      simp only [not_or, Nat.not_le, Bool.not_eq_true] at hkept
      obtain ⟨before, hbefore, rfl⟩ := Option.map_eq_some_iff.mp hlife
      obtain ⟨p, hp⟩ := exists_plan?_of_lt_visible hkept.1
      obtain ⟨hid, hsaved⟩ := he hkept.2 i p q hkept.1 hp hq
      exact (hl before hbefore p hp).heed hp hid hsaved
  · cases hlife

theorem follows_lifeFrom {s : Session} {i : Nat} {l : Option Life}
    (hl : ∀ life, l = some life → ∀ p, s.plan? i = some p → life.Follows i p) {es : List Event}
    (hes : s.SteadyRun es) (life : Life) (hlife : s.lifeFrom i l es = some life) (p : Plan)
    (hp : (s.run es).plan? i = some p) : life.Follows i p := by
  induction es generalizing s l with
  | nil => exact hl life hlife p hp
  | cons e es ih => exact ih (follows_lifeAfter hl hes.1) hes.2 hlife hp

/-- **While batches are steady, controls belong to the plan that they are shown with.**  A saved plan cannot be
saved again, and a summary in the dialog was asked for the plan that it is shown with. -/
theorem controls_belong_of_steadyRun {search : Search} {user : String} {initial pageSize : Nat}
    {es : List Event} (hes : (start search user initial pageSize).SteadyRun es) {i : Nat}
    (hi : i < ((start search user initial pageSize).run es).visible) :
    ∃ life controls p, (start search user initial pageSize).life i es = some life ∧
      ((start search user initial pageSize).run es).controls[i]? = some controls ∧
      ((start search user initial pageSize).run es).plan? i = some p ∧
      (p.saved = true → controls.saveDisabled = true) ∧
      (controls.summaryBody ≠ "" → life.SummaryOf controls.summaryBody p.id) := by
  obtain ⟨p, hp⟩ := exists_plan?_of_lt_visible hi
  obtain ⟨life, hlife, hslot⟩ := exists_life hi
  have hfollows : life.Follows i p := by
    refine follows_lifeFrom (l := none) ?_ hes life hlife p hp
    intro l hl
    cases hl
  obtain ⟨hcontrols, -⟩ := getElem?_slots_eq_some_iff.mp hslot
  refine ⟨life, life.slot.controls, p, hlife, hcontrols, hp, ?_, ?_⟩
  · intro hsaved
    exact life.saveDisabled_slot.mpr (.inl (hfollows.saved hsaved))
  · intro hbody
    obtain ⟨d, hd, hlast, -⟩ := Life.exists_lastSummary? hbody
    obtain ⟨q, hq, hid⟩ := hfollows.met d hd
    exact ((shown_of_life hlife).summaryOf_iff hbody p.id).mpr ⟨d, q, hlast, hq, hid⟩

end Session

end PlanBrowser

import PlanBrowser.Proofs.Session.Invariant

/-!
# Which plan an action reaches

An action is given the index of a plan.  It looks at the controls first, to see whether the plan is shown, and only then
at the plans, which may be more; and it changes the controls before it asks.  In a state that fits, there are controls
for the shown plans and for no others, so an action either finds its plan or has not changed anything yet.

* `Session.save_of_shown` and its neighbours — the whole dialogue about a shown plan;
* `Session.save_of_not_shown` and its neighbours — the dialogue about any other plan, which is over at once;
* `Session.SameBut` — two sessions differ at most in what is kept for one plan;
* `Session.Fits.sameBut_act` — an action leaves what is kept for the other plans alone;
* `Session.actions_reach_shown_plan` — **an action reaches the plan that is shown at its index, or does nothing**.
-/

namespace PlanBrowser.Session

/-! ## The dialogue about a shown plan -/

section Shown

variable {s : Session} {i : Nat} {p : Plan}

theorem like_of_shown (h : i < s.controls.length) : s.like i = (s.act (.like i), .ok ()) := by
  have hlike : s.like i = (s.updateControls i fun c => { c with dislikeDisabled := true }, .ok ()) := by
    rw [like, if_pos h]
  show s.like i = ((s.like i).1, .ok ())
  rw [hlike]

/-- Saving a shown plan asks for it once, and returns what the planner replies. -/
theorem save_of_shown (h : i < s.controls.length) (hp : s.plan? i = some p) (now : Calendar.Instant) :
    s.save i now = .ask (.save s.user (s.saveRequest p now)) fun reply =>
      (s.act (.save i now reply), Except.mapError ActionFault.failed reply) := by
  have hshown : s.shownPlan? i = some p := by
    rw [shownPlan?, if_pos h, hp]
  simp only [act, save, hshown]
  congr 1
  funext reply
  cases reply <;> rfl

/-- Disliking a shown plan tells so once, and returns what the planner replies. -/
theorem dislike_of_shown (h : i < s.controls.length) (hp : s.plan? i = some p) :
    s.dislike i = .ask (.feedback s.user (.ofPlan p)) fun reply =>
      (s.act (.dislike i reply), Except.mapError ActionFault.failed reply) := by
  simp only [act, dislike, if_pos h, plan?_updateControls, hp]
  congr 1
  funext reply
  cases reply <;> rfl

/-- A summary of a shown plan is asked for once, and returned as the text that is put into the dialog. -/
theorem summarise_of_shown (h : i < s.controls.length) (hp : s.plan? i = some p) :
    s.summarise i = .ask (.summary ⟨p.id⟩) fun reply =>
      (s.act (.summarise i reply), .ok (summaryText reply)) := by
  simp only [act, summarise, if_pos h, plan?_updateControls, hp]
  rfl

end Shown

/-! ## The dialogue about any other plan -/

section NotShown

variable {s : Session} {i : Nat}

theorem like_of_not_shown (h : s.controls.length ≤ i) : s.like i = s.refused i := by
  rw [like, if_neg (by omega)]

theorem save_of_not_shown (h : s.controls.length ≤ i) (now : Calendar.Instant) :
    s.save i now = .done (s.refused i) := by
  have hnone : s.shownPlan? i = none := by
    rw [shownPlan?, if_neg (by omega)]
  rw [save, hnone]

theorem dislike_of_not_shown (h : s.controls.length ≤ i) : s.dislike i = .done (s.refused i) := by
  rw [dislike, if_neg (by omega)]

theorem summarise_of_not_shown (h : s.controls.length ≤ i) : s.summarise i = .done (s.refused i) := by
  rw [summarise, if_neg (by omega)]

end NotShown

/-! ## What is left alone -/

/-- **The sessions differ at most in what is kept for plan `i`**: in one entry of the controls, and in one of the
failures of saves. -/
structure SameBut (i : Nat) (s next : Session) : Prop where
  frame : next = { s with controls := next.controls, saveErrors := next.saveErrors }
  length_controls : next.controls.length = s.controls.length
  length_saveErrors : next.saveErrors.length = s.saveErrors.length
  controls : ∀ j, j ≠ i → next.controls[j]? = s.controls[j]?
  saveErrors : ∀ j, j ≠ i → next.saveErrors[j]? = s.saveErrors[j]?

theorem sameBut_self (s : Session) (i : Nat) : SameBut i s s :=
  ⟨rfl, rfl, rfl, fun _ _ => rfl, fun _ _ => rfl⟩

theorem Fits.sameBut_act {s : Session} (h : s.Fits) (a : Action) : SameBut a.index s (s.act a) := by
  have hact := h.act_eq a
  refine ⟨s.act_frame a, ?_, ?_, ?_, ?_⟩
  · rw [hact, List.length_modify]
  · rw [hact, List.length_modify]
  · intro j hj
    rw [hact]
    exact List.getElem?_modify_ne _ _ hj.symm
  · intro j hj
    rw [hact]
    exact List.getElem?_modify_ne _ _ hj.symm

/-! ## Every action -/

/-- What a planner replies is not a refusal. -/
theorem mapError_failed_ne_notShown (reply : Except Failure Unit) (i : Nat) :
    reply.mapError ActionFault.failed ≠ .error (.notShown i) := by
  intro h
  cases reply <;> cases h

/-- **An action reaches the plan that is shown at its index, or does nothing.**  In every state, for every index and
whatever is replied: an action on a plan that is not there and shown is refused, asks nothing and leaves the session as
it is, and no other action is refused.  Of the actions on a shown plan, liking it asks nothing, and each of the others
asks once: to save the plan for the session's user, with the id of the plan, the location and the date of the search,
and all its stops in order, each with its start and its end as they were given; to tell the user's dislike, with the id
of the plan and what the planner was asked for; to make a summary of the plan with that id.  Saving and disliking return
what the planner replies, and the request for a summary always returns a text.  No action changes what is kept for any
other plan. -/
theorem actions_reach_shown_plan (s : Session) (hs : s.Reachable) (i : Nat) (now : Calendar.Instant)
    (reply : (q : Question) → Reply q) :
    let saved := (s.save i now).run reply
    let disliked := (s.dislike i).run reply
    let summarised := (s.summarise i).run reply
    (s.visible ≤ i →
      s.like i = s.refused i ∧ s.save i now = .done (s.refused i) ∧
      s.dislike i = .done (s.refused i) ∧ s.summarise i = .done (s.refused i)) ∧
    ((s.like i).2 = .error (.notShown i) ↔ s.visible ≤ i) ∧
    (saved.2 = .error (.notShown i) ↔ s.visible ≤ i) ∧
    (disliked.2 = .error (.notShown i) ↔ s.visible ≤ i) ∧
    (summarised.2 = .error (.notShown i) ↔ s.visible ≤ i) ∧
    (i < s.visible → ∃ p, s.plan? i = some p ∧
      let request : SaveRequest :=
        { destination := s.search.location
          date := s.search.date
          planId := p.id
          createdAt := now.timestamp
          stops := p.stops.map fun t =>
            ⟨t.id, t.start.text ++ " - " ++ t.finish.text, t.name, t.address, t.link⟩ }
      (s.like i).2 = .ok () ∧
      (s.save i now).question? = some (.save s.user request) ∧
      saved.2 = (reply (.save s.user request)).mapError .failed ∧
      (s.dislike i).question? = some (.feedback s.user ⟨p.id, p.spec⟩) ∧
      disliked.2 = (reply (.feedback s.user ⟨p.id, p.spec⟩)).mapError .failed ∧
      (s.summarise i).question? = some (.summary ⟨p.id⟩) ∧
      summarised.2 = .ok (summaryText (reply (.summary ⟨p.id⟩)))) ∧
    SameBut i s (s.like i).1 ∧ SameBut i s saved.1 ∧ SameBut i s disliked.1 ∧ SameBut i s summarised.1 := by
  intro saved disliked summarised
  have hfits : s.Fits := hs.fits
  have hlen := hfits.length_controls
  by_cases hi : i < s.visible
  · obtain ⟨p, hp⟩ := exists_plan?_of_lt_visible hi
    have hshown : i < s.controls.length := hlen ▸ hi
    have hlike := like_of_shown hshown
    have hsave := save_of_shown hshown hp now
    have hdislike := dislike_of_shown hshown hp
    have hsummarise := summarise_of_shown hshown hp
    have hsaved : saved = (s.act (.save i now (reply (.save s.user (s.saveRequest p now)))),
        Except.mapError ActionFault.failed (reply (.save s.user (s.saveRequest p now)))) := by
      show (s.save i now).run reply = _
      rw [hsave]
      rfl
    have hdisliked : disliked = (s.act (.dislike i (reply (.feedback s.user (.ofPlan p)))),
        Except.mapError ActionFault.failed (reply (.feedback s.user (.ofPlan p)))) := by
      show (s.dislike i).run reply = _
      rw [hdislike]
      rfl
    have hsummarised : summarised = (s.act (.summarise i (reply (.summary ⟨p.id⟩))),
        .ok (summaryText (reply (.summary ⟨p.id⟩)))) := by
      show (s.summarise i).run reply = _
      rw [hsummarise]
      rfl
    rw [hlike, hsaved, hdisliked, hsummarised, hsave, hdislike, hsummarise]
    refine ⟨fun hle => by omega, ?_, ?_, ?_, ?_, fun _ => ⟨p, hp, rfl, rfl, rfl, rfl, rfl, rfl, rfl⟩, ?_⟩
    · exact iff_of_false nofun (by omega)
    · exact iff_of_false (mapError_failed_ne_notShown _ i) (by omega)
    · exact iff_of_false (mapError_failed_ne_notShown _ i) (by omega)
    · exact iff_of_false nofun (by omega)
    · exact ⟨hfits.sameBut_act (.like i), hfits.sameBut_act (.save i now _), hfits.sameBut_act (.dislike i _),
        hfits.sameBut_act (.summarise i _)⟩
  · have hle : s.visible ≤ i := Nat.le_of_not_lt hi
    have hnot : s.controls.length ≤ i := hlen ▸ hle
    have hsaved : saved = s.refused i := by
      show (s.save i now).run reply = _
      rw [save_of_not_shown hnot now]
      rfl
    have hdisliked : disliked = s.refused i := by
      show (s.dislike i).run reply = _
      rw [dislike_of_not_shown hnot]
      rfl
    have hsummarised : summarised = s.refused i := by
      show (s.summarise i).run reply = _
      rw [summarise_of_not_shown hnot]
      rfl
    rw [hsaved, hdisliked, hsummarised, like_of_not_shown hnot]
    refine ⟨fun _ => ⟨rfl, save_of_not_shown hnot now, dislike_of_not_shown hnot, summarise_of_not_shown hnot⟩,
      iff_of_true rfl hle, iff_of_true rfl hle, iff_of_true rfl hle, iff_of_true rfl hle,
      fun hlt => absurd hlt hi, ?_⟩
    exact ⟨s.sameBut_self i, s.sameBut_self i, s.sameBut_self i, s.sameBut_self i⟩

/-- Of two plans one is shown: it is saved under its id, and saving the other one is refused. -/
theorem actions_reach_first_of_two :
    let s := (start default "guest" 1 5).after (.ready (some ⟨["a", "b"].map Plan.named, [], ""⟩))
    let planner : Planner := { done := .error (.timedOut "http://planner/") }
    s.Reachable ∧
      (∃ p, s.plan? 0 = some p ∧
        ((s.save 0 ⟨0, 0⟩).run planner.reply).2 = .error (.failed (.timedOut "http://planner/"))) ∧
      s.save 1 ⟨0, 0⟩ = .done (s.refused 1) := by
  intro s planner
  have hs : s.Reachable := (Reachable.start default "guest" 1 5).after _
  have hfirst := actions_reach_shown_plan s hs 0 ⟨0, 0⟩ planner.reply
  have hsecond := actions_reach_shown_plan s hs 1 ⟨0, 0⟩ planner.reply
  obtain ⟨p, hp, -, -, hsaved, -⟩ := hfirst.2.2.2.2.2.1 (by decide)
  exact ⟨hs, ⟨p, hp, hsaved⟩, (hsecond.1 (by decide)).2.1⟩

end PlanBrowser.Session

import PlanBrowser.Proofs.Session.History
import PlanBrowser.Proofs.Session.Pool

/-!
# What a refresh forgets

A refresh fetches the plans of the search again and keeps of the session what the session was made of: the search, the
user, the size of a step, how many plans are shown, and the mark of a fetch in flight.  All that was done to the plans
is forgotten, and so is the batch that was there.  So the session is the one that is opened anew with that many plans
shown; and it does not matter what it was before, as long as those five are the same.

* `Session.renewed` — the session with another batch and no history;
* `Session.refresh_run` — a refresh that brings plans leads there, and hands out all shown plans;
* `Session.renewed_congr` — **what a refresh keeps**;
* `Session.slots_renewed` — **all slots are those of untouched plans**;
* `Session.renewed_renewed` — a second refresh finds nothing to do;
* `Session.renewed_eq_opened` — **a refresh is an opening**, up to the fetch in flight;
* `Session.refresh_starts_anew` — all of it, in every state.
-/

namespace PlanBrowser.Session

/-- **The session with another batch and no history.** -/
def renewed (s : Session) (b : Batch) : Session :=
  { s with controls := [], saveErrors := [] }.withBatch b

/-- A refresh that brings plans hands out all shown plans of the session that it leads to. -/
theorem refresh_run {s : Session} {reply : Answers} {b : Batch}
    (h : reply (.plans s.search (some s.search.count)) = some b) :
    s.refresh.run reply = (s.renewed b, some (s.renewed b).shownFragments) := by
  simp only [refresh, Dialogue.run, h, renewed]

/-! ## The session after a refresh -/

section

variable (s : Session) (b : Batch)

@[simp] theorem renewed_search : (s.renewed b).search = s.search := rfl

@[simp] theorem renewed_shown : (s.renewed b).shown = min s.shown b.size := rfl

/-- **What a refresh keeps**: two sessions that agree in these five become the same. -/
theorem renewed_congr {s t : Session} (hsearch : t.search = s.search) (huser : t.user = s.user)
    (hpage : t.pageSize = s.pageSize) (hshown : min t.shown b.size = min s.shown b.size)
    (hpending : t.pending = s.pending) : t.renewed b = s.renewed b := by
  simp only [renewed, withBatch, hsearch, huser, hpage, hshown, hpending]

/-- A second refresh with the same plans finds nothing to do. -/
theorem renewed_renewed : (s.renewed b).renewed b = s.renewed b := by
  refine renewed_congr b rfl rfl rfl ?_ rfl
  rw [renewed_shown, Nat.min_assoc, Nat.min_self]

/-- **All slots are those of untouched plans**, one for each plan that stays shown. -/
theorem slots_renewed : (s.renewed b).slots = (b.plans.take s.shown).map Slot.ofPlan := by
  have hvisible : (s.renewed b).visible = min s.shown b.size := by
    show min (min s.shown b.size) b.size = _
    rw [Nat.min_assoc, Nat.min_self]
  apply List.ext_getElem?
  intro i
  have hslot : (s.renewed b).slots[i]? =
      if i < (s.renewed b).visible then (b.plans[i]?).map Slot.ofPlan else none := s.getElem?_slots_renewed b i
  rw [hslot, hvisible, List.getElem?_map, List.getElem?_take]
  by_cases hsize : i < b.size
  · simp only [Nat.lt_min, hsize, and_true]
    split <;> rfl
  · -- beyond the batch there is neither a slot nor a plan
    have hnone : b.plans[i]? = none := List.getElem?_eq_none (Nat.le_of_not_lt hsize)
    simp [hnone]

/-- **A refresh is an opening** of the session with as many plans shown, up to the fetch in flight. -/
theorem renewed_eq_opened (h : 1 ≤ s.pageSize) :
    s.renewed b = { (start s.search s.user s.shown s.pageSize).withBatch b with pending := s.pending } := by
  have hpage : s.pageSize = max s.pageSize 1 := (Nat.max_eq_left h).symm
  let opened : Session := { start s.search s.user s.shown s.pageSize with pending := s.pending }
  have hopened : opened.renewed b = s.renewed b := by
    refine renewed_congr b ?_ ?_ hpage.symm ?_ ?_ <;> rfl
  rw [← hopened]
  rfl

end

/-- **A refresh starts anew.**  In every state, let a refresh bring plans.

* The session is the one that is opened with the same plans, for the same search and user, with the same size of a
  step, and with as many plans shown; only the fetch in flight is that of the state before.
* The fragments of all plans that are shown then are handed out, and they are those of the session opened anew; each
  slot is that of an untouched plan.
* A second refresh with the same reply leaves the session as it is, and hands out the same.
* Any other session with the same search, user, size of a step, number of shown plans and fetch in flight becomes the
  same session and hands out the same, whatever plans, controls and failures it has. -/
theorem refresh_starts_anew (s : Session) (hs : s.Reachable) (reply first : Answers) (b : Batch)
    (hreply : reply (.plans s.search (some s.search.count)) = some b)
    (hfirst : first (.plans s.search none) = some b) :
    let next := (s.refresh.run reply).1
    let opened := (start s.search s.user s.shown s.pageSize).ready.run first
    opened.2 = true ∧
      next = { opened.1 with pending := s.pending } ∧
      (s.refresh.run reply).2 = some next.shownFragments ∧
      next.shownFragments = opened.1.shownFragments ∧
      next.slots = (b.plans.take s.shown).map Slot.ofPlan ∧
      next.refresh.run reply = (next, some next.shownFragments) ∧
      ∀ t : Session, t.search = s.search → t.user = s.user → t.pageSize = s.pageSize → t.shown = s.shown →
        t.pending = s.pending → t.refresh.run reply = s.refresh.run reply := by
  intro next opened
  have hrun : s.refresh.run reply = (s.renewed b, some (s.renewed b).shownFragments) := refresh_run hreply
  have hnext : next = s.renewed b := congrArg Prod.fst hrun
  have hopened : opened = ((start s.search s.user s.shown s.pageSize).withBatch b, true) := ready_run hfirst
  have hanew : next = { opened.1 with pending := s.pending } := by
    rw [hnext, hopened]
    exact s.renewed_eq_opened b hs.fits.pageSize_pos
  refine ⟨by rw [hopened], hanew, ?_, ?_, ?_, ?_, ?_⟩
  · rw [hrun, hnext]
  · -- whether a fetch is in flight is not seen in a fragment
    rw [hanew]
    rfl
  · rw [hnext]
    exact s.slots_renewed b
  · have hagain : reply (.plans next.search (some next.search.count)) = some b := by
      rw [hnext, renewed_search]
      exact hreply
    rw [refresh_run hagain, hnext, renewed_renewed]
  · intro t hsearch huser hpage hshown hpending
    have hreply' : reply (.plans t.search (some t.search.count)) = some b := by
      rw [hsearch]
      exact hreply
    have hsame : t.renewed b = s.renewed b :=
      renewed_congr b hsearch huser hpage (by rw [hshown]) hpending
    rw [hrun, refresh_run hreply', hsame]

/-- Two plans were liked and saved, and a fetch is in flight; then a refresh brings one plan, which is saved. -/
theorem refresh_starts_anew_with_one_plan :
    let b : Batch := ⟨[{ Plan.named "a" with saved := true }], [], ""⟩
    let s := (start default "guest" 2 1).run [.ready (some ⟨["a", "b"].map Plan.named, [], ""⟩), .act (.like 0),
      .act (.save 1 default (.ok ())), .beginFetch]
    let reply := ({ plans := some b } : Planner).reply
    s.Reachable ∧ reply (.plans s.search (some s.search.count)) = some b ∧
      reply (.plans s.search none) = some b ∧
      (s.refresh.run reply).1.slots = [Slot.ofPlan { Plan.named "a" with saved := true }] := by
  intro b s reply
  have hs : s.Reachable := (Reachable.start default "guest" 2 1).run _
  exact ⟨hs, rfl, rfl, (refresh_starts_anew s hs reply reply b rfl rfl).2.2.2.2.1⟩

end PlanBrowser.Session

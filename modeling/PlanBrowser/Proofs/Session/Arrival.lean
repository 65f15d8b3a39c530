import PlanBrowser.Proofs.Session.History
import PlanBrowser.Proofs.Session.Reveal

/-!
# What the end of a fetch hands out

A fetch has two halves, and between them the session goes on: it may show more of the plans that it has, and another
batch may come.  When the plans arrive, all of them become shown at once.  Those handed out begin where the plans end
that were there before, and not where the shown ones end.  The two are the same place only if no plan waits to be
shown, so a plan that waits at that moment becomes shown and is handed to nobody.

* `Session.map_index_finishFetch` — the plans that the end of a fetch hands out;
* `Session.handed_out_eq_iff` — they are the newly shown ones exactly if no plan waits;
* `Session.available_le_shown_run` — no plan begins to wait unless another batch comes between;
* `Session.handed_out_iff_none_waits` — **when a fetch hands out the newly shown plans, and which are left out**;
* `Session.waiting_plans_left_out` — a fetch that leaves two of them out.
-/

namespace PlanBrowser.Session

/-! ## The end of a fetch -/

/-- A reply with at least as many plans as there are ends a fetch that is in flight with all of them shown. -/
theorem finishFetch_of_le {s : Session} {count : Nat} {b : Batch} (hpending : s.pending = some count)
    (hsize : s.available ≤ b.size) :
    s.finishFetch (some b) =
      (s.deepened count b, (s.deepened count b).fragments (max s.available s.shown) b.size) := by
  have hnot : ¬ b.size < s.available := Nat.not_lt.mpr hsize
  simp only [finishFetch, hpending, if_neg hnot]
  rfl

/-- **The plans that the end of a fetch hands out**: they begin after those that were there and those that were
shown. -/
theorem map_index_finishFetch {s : Session} {count : Nat} {b : Batch} (hpending : s.pending = some count)
    (hsize : s.available ≤ b.size) :
    (s.finishFetch (some b)).2.map (·.index) =
      List.range' (max s.available s.shown) (b.size - max s.available s.shown) := by
  have havailable : (s.deepened count b).available = b.size := rfl
  rw [finishFetch_of_le hpending hsize]
  show ((s.deepened count b).fragments (max s.available s.shown) b.size).map (·.index) = _
  rw [map_index_fragments, havailable, Nat.min_self]

theorem shown_finishFetch_of_le {s : Session} {count : Nat} {b : Batch} (hpending : s.pending = some count)
    (hsize : s.available ≤ b.size) : (s.finishFetch (some b)).1.shown = b.size := by
  rw [finishFetch_of_le hpending hsize]
  rfl

/-- **The plans handed out are the newly shown ones exactly if no plan waits to be shown.** -/
theorem handed_out_eq_iff {s : Session} {count : Nat} {b : Batch} (hpending : s.pending = some count)
    (hsize : s.available ≤ b.size) :
    (s.finishFetch (some b)).2.map (·.index) = List.range' s.shown (b.size - s.shown) ↔
      s.available ≤ s.shown := by
  rw [map_index_finishFetch hpending hsize, List.range'_inj]
  omega

/-! ## Until a fetch ends -/

theorem available_le_shown_finishFetch {s : Session} (h : s.available ≤ s.shown) (r : Option Batch) :
    (s.after (.finishFetch r)).available ≤ (s.after (.finishFetch r)).shown := by
  rcases s.after_finishFetch_cases r with heq | ⟨count, b, -, -, -, heq⟩
  · rw [heq]
    exact h
  · rw [heq]
    exact Nat.le_refl b.size

/-- No plan begins to wait in an event that does not put another batch in place of the one that is there. -/
theorem available_le_shown_after {s : Session} (h : s.available ≤ s.shown) {e : Event} (he : e.swaps = false) :
    (s.after e).available ≤ (s.after e).shown := by
  cases e with
  | ready r =>
    cases r with
    | none => exact h
    | some b => cases he
  | loadMore r =>
    rw [after_loadMore_of_le h]
    have hbegun : (s.after .beginFetch).available ≤ (s.after .beginFetch).shown := h
    exact available_le_shown_finishFetch hbegun r
  | beginFetch => exact h
  | finishFetch r => exact available_le_shown_finishFetch h r
  | refresh r =>
    cases r with
    | none => exact h
    | some b => cases he
  | act a =>
    show (s.act a).available ≤ (s.act a).shown
    simp only [available, act_batch, act_shown]
    exact h

theorem available_le_shown_run {s : Session} (h : s.available ≤ s.shown) {es : List Event}
    (hes : ∀ e ∈ es, e.swaps = false) : (s.run es).available ≤ (s.run es).shown := by
  induction es generalizing s with
  | nil => exact h
  | cons e es ih =>
    have hafter := available_le_shown_after h (hes e List.mem_cons_self)
    exact ih hafter fun e' he' => hes e' (List.mem_cons_of_mem e he')

/-! ## When plans are left out -/

/-- **When a fetch hands out the newly shown plans.**  With a fetch in flight, and for every reply that is put to
use: all plans of the reply become shown, and those handed out are the newly shown ones, each once and in order,
exactly if no plan was waiting to be shown when the reply came.  The plans that become shown and are handed to nobody
are exactly those that were waiting.  None was if none was when the fetch began and no other batch has come since,
whatever else was done. -/
theorem handed_out_iff_none_waits (s : Session) (count : Nat) (hpending : s.pending = some count) (b : Batch)
    (hsize : s.available ≤ b.size) :
    let next := (s.finishFetch (some b)).1
    let handed := (s.finishFetch (some b)).2
    next.shown = b.size ∧
      handed = next.fragments (max s.available s.shown) next.shown ∧
      (handed.map (·.index) = List.range' s.shown (next.shown - s.shown) ↔ s.available ≤ s.shown) ∧
      (∀ i, (s.shown ≤ i ∧ i < next.shown ∧ i ∉ handed.map (·.index)) ↔ (s.shown ≤ i ∧ i < s.available)) ∧
      ∀ (before : Session) (es : List Event), s = (before.after .beginFetch).run es →
        before.available ≤ before.shown → (∀ e ∈ es, e.swaps = false) →
          handed.map (·.index) = List.range' s.shown (next.shown - s.shown) := by
  intro next handed
  have hshown : next.shown = b.size := shown_finishFetch_of_le hpending hsize
  have hiff := handed_out_eq_iff hpending hsize
  refine ⟨hshown, ?_, ?_, ?_, ?_⟩
  · rw [hshown]
    show (s.finishFetch (some b)).2 = (s.finishFetch (some b)).1.fragments _ _
    rw [finishFetch_of_le hpending hsize]
  · rw [hshown]
    exact hiff
  · intro i
    have hindices : handed.map (·.index) = _ := map_index_finishFetch hpending hsize
    rw [hindices, hshown, List.mem_range'_1]
    omega
  · rintro before es rfl hbefore hes
    have hbegun : (before.after .beginFetch).available ≤ (before.after .beginFetch).shown := hbefore
    rw [hshown]
    exact hiff.mpr (available_le_shown_run hbegun hes)

/-- Of three plans one is shown when a fetch begins, and it brings a fourth: those left out are the second and the
third. -/
theorem left_out_second_and_third :
    let plans := ["a", "b", "c", "d"].map Plan.named
    let s := (start default "guest" 1 1).run [.ready (some ⟨plans.take 3, [], ""⟩), .beginFetch]
    let handed := (s.finishFetch (some ⟨plans, [], ""⟩)).2
    s.pending = some 1 ∧ s.available ≤ (⟨plans, [], ""⟩ : Batch).size ∧
      ∀ i, (1 ≤ i ∧ i < 4 ∧ i ∉ handed.map (·.index)) ↔ (1 ≤ i ∧ i < 3) := by
  intro plans s handed
  have hpending : s.pending = some 1 := by decide
  have hsize : s.available ≤ (⟨plans, [], ""⟩ : Batch).size := by decide
  exact ⟨hpending, hsize, (handed_out_iff_none_waits s 1 hpending ⟨plans, [], ""⟩ hsize).2.2.2.1⟩

/-- **A fetch that leaves plans out.**  Of three plans one is shown when a fetch begins; it brings a fourth plan, and
then all four are shown, but only the fourth one is handed out. -/
theorem waiting_plans_left_out :
    let plans := ["a", "b", "c", "d"].map Plan.named
    let s := (start default "guest" 1 1).run [.ready (some ⟨plans.take 3, [], ""⟩), .beginFetch]
    let next := (s.finishFetch (some ⟨plans, [], ""⟩)).1
    let handed := (s.finishFetch (some ⟨plans, [], ""⟩)).2
    s.Reachable ∧ s.pending = some 1 ∧ s.available = 3 ∧ s.shown = 1 ∧ next.shown = 4 ∧
      handed.map (·.index) = [3] ∧
      handed.map (·.index) ≠ List.range' s.shown (next.shown - s.shown) := by
  intro plans s next handed
  have hs : s.Reachable := (Reachable.start default "guest" 1 1).run _
  exact ⟨hs, by decide, by decide, by decide, by decide, by decide, by decide⟩

end PlanBrowser.Session

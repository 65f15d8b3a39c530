import PlanBrowser.Json.Write
import PlanBrowser.Plan.Basic

/-!
# The controls of a shown plan

Under each plan stand five controls.  What they look like at the moment is the plan's **control state**: which
of them are disabled, whether the refresh control has appeared, what the tooltip of the save control says, and
the label and the text of the summary.

* `Control` — the five controls;
* `ElementId` — the place of a control in a page, written `save-2` for the save control of plan `2`;
* `Controls` — the control state of a plan;
* `Controls.ofPlan` — the control state of a plan that nobody has touched.
-/

namespace PlanBrowser

/-- A control under a shown plan. -/
inductive Control where
  | like
  | dislike
  | refresh
  | save
  | summary
  deriving Repr, DecidableEq, Inhabited

namespace Control

/-- All controls, in the order in which they stand. -/
def all : List Control :=
  [like, dislike, refresh, save, summary]

/-- The name that a control's element goes by. -/
def elementName : Control → String
  | like => "like"
  | dislike => "dislike"
  | refresh => "refresh"
  | save => "save"
  | summary => "summary"

/-- The name of what a control does. -/
def actionName : Control → String
  | summary => "generate_summary"
  | c => c.elementName

end Control

/-- The place of a control in a page. -/
structure ElementId where
  control : Control
  index : Nat
  deriving Repr, DecidableEq, Inhabited

/-- The written form of an element's id. -/
def ElementId.text (k : ElementId) : String :=
  k.control.elementName ++ "-" ++ Text.written k.index

/-- What the controls of a plan look like. -/
structure Controls where
  saveDisabled : Bool
  saveTitle : String
  likeDisabled : Bool
  dislikeDisabled : Bool
  refreshVisible : Bool
  summaryDisabled : Bool
  summaryLabel : String
  summaryBody : String
  deriving Repr, DecidableEq, Inhabited

namespace Controls

/-- The tooltip over the save control of a plan that is not saved. -/
def saveTitleFresh : String := "save"

/-- The tooltip over the save control of a saved plan. -/
def saveTitleDone : String := "saved!"

/-- The label of the summary control before there is a summary. -/
def summaryLabelFresh : String := "generate summary"

/-- The label of the summary control from the first summary on. -/
def summaryLabelAgain : String := "regenerate summary"

/-- **The controls of an untouched plan**: all of them enabled, except that a plan which is saved already
cannot be saved again. -/
def ofPlan (p : Plan) : Controls :=
  { saveDisabled := p.saved
    saveTitle := if p.saved then saveTitleDone else saveTitleFresh
    likeDisabled := false
    dislikeDisabled := false
    refreshVisible := false
    summaryDisabled := false
    summaryLabel := summaryLabelFresh
    summaryBody := "" }

/-- A control state as JSON. -/
def toJson (c : Controls) : Json :=
  .object [("save_disabled", .bool c.saveDisabled), ("save_title", .string c.saveTitle),
    ("like_disabled", .bool c.likeDisabled), ("dislike_disabled", .bool c.dislikeDisabled),
    ("refresh_visible", .bool c.refreshVisible), ("summary_disabled", .bool c.summaryDisabled),
    ("summary_label", .string c.summaryLabel), ("summary_body", .string c.summaryBody)]

end Controls

end PlanBrowser

import PlanBrowser.Html.Piece
import PlanBrowser.Page.Control

/-!
# The page item of a plan

A plan is shown as one item of an accordion: a heading, a table with a row for each stop, the five controls,
a link to the details, and the dialog that holds the summary.  The item comes with its **bindings**, which say
for each control where it is in the page and which plan it acts on.

* `planItem` — the item of a plan with a given control state;
* `Fragment` — a written item and its bindings;
* `Fragment.ofPlan` — the fragment of a plan.
-/

namespace PlanBrowser

open Html (Piece number flag)

namespace PlanItem

/-- The heading and the opening of the body. -/
def heading (p : Plan) (index : Nat) : List Piece :=
  [.markup "<div class=\"accordion-item\" id=\"plan-", number index, .markup "\" data-plan-id=\"",
    .text p.id,
    .markup "\">\n  <h2 class=\"accordion-header\" id=\"heading-", number index,
    .markup "\">\n    <button class=\"accordion-button collapsed\" type=\"button\"",
    .markup " data-bs-toggle=\"collapse\" data-bs-target=\"#collapse-", number index,
    .markup "\" aria-expanded=\"false\" aria-controls=\"collapse-", number index,
    .markup "\">Plan ", number (index + 1),
    .markup "</button>\n  </h2>\n  <div id=\"collapse-", number index,
    .markup "\" class=\"accordion-collapse collapse\" aria-labelledby=\"heading-", number index,
    .markup "\">\n    <div class=\"accordion-body\">\n"]

/-- The row of a stop. -/
def row (s : Stop) : List Piece :=
  [.markup "          <tr><td><i class=\"", .text s.icon, .markup "\"></i></td><td>",
    .text s.start.shown, .markup " - ", .text s.finish.shown, .markup "</td><td><a href=\"",
    .text s.link, .markup "\" target=\"_blank\" rel=\"noopener\">", .text s.name,
    .markup "</a></td><td>", .text s.address, .markup "</td></tr>\n"]

/-- The table of the stops. -/
def table (stops : List Stop) : List Piece :=
  [.markup "      <table class=\"table table-hover\">\n        <thead><tr><th scope=\"col\"></th>",
    .markup "<th scope=\"col\">Time</th><th scope=\"col\">Place</th><th scope=\"col\">Address</th>",
    .markup "</tr></thead>\n        <tbody>\n"]
  ++ stops.flatMap row ++ [.markup "        </tbody>\n      </table>\n"]

/-- What a control that shows an icon looks like. -/
structure Look where
  style : String
  icon : String
  title : String

/-- A control that shows an icon. -/
def button (key : ElementId) (look : Look) (disabled visible : Bool) : List Piece :=
  [.markup "        <button id=\"", .text key.text, .markup "\" type=\"button\" class=\"btn ",
    .markup look.style, .markup " m-1\" data-bs-toggle=\"tooltip\" title=\"", .text look.title,
    .markup "\"", flag disabled " disabled", flag (!visible) " style=\"display: none\"",
    .markup "><i class=\"", .markup look.icon, .markup "\"></i></button>\n"]

/-- The control that likes a plan. -/
def likeLook : Look :=
  ⟨"btn-outline-success", "bi bi-hand-thumbs-up", "like"⟩

/-- The control that dislikes a plan. -/
def dislikeLook : Look :=
  ⟨"btn-outline-danger", "bi bi-hand-thumbs-down", "dislike"⟩

/-- The control that asks for other plans. -/
def refreshLook : Look :=
  ⟨"btn-outline-secondary", "bi bi-arrow-clockwise", "show me something else"⟩

/-- The control that saves a plan. -/
def saveLook : Look :=
  ⟨"btn-outline-primary", "bi bi-bookmark", "save"⟩

/-- The row of controls. -/
def toolbar (index : Nat) (details : String) (c : Controls) : List Piece :=
  [.markup "      <div class=\"btn-toolbar\" role=\"toolbar\">\n"]
  ++ button ⟨.like, index⟩ likeLook c.likeDisabled true
  ++ button ⟨.dislike, index⟩ dislikeLook c.dislikeDisabled true
  ++ button ⟨.refresh, index⟩ refreshLook false c.refreshVisible
  ++ [.markup "        <span class=\"d-inline-block\" tabindex=\"0\" data-bs-toggle=\"tooltip\" title=\"",
    .text c.saveTitle, .markup "\">\n  "]
  ++ button ⟨.save, index⟩ saveLook c.saveDisabled true
  ++ [.markup "        </span>\n        <a class=\"btn btn-outline-info m-1\" href=\"", .text details,
    .markup "\" role=\"button\">show details</a>\n        <button id=\"",
    .text (ElementId.text ⟨.summary, index⟩),
    .markup "\" type=\"button\" class=\"btn btn-outline-dark m-1\" data-bs-toggle=\"modal\"",
    .markup " data-bs-target=\"#summary-modal-", number index, .markup "\"",
    flag c.summaryDisabled " disabled", .markup ">", .text c.summaryLabel,
    .markup "</button>\n      </div>\n"]

/-- The dialog that holds the summary, and the end of the item. -/
def dialog (index : Nat) (c : Controls) : List Piece :=
  [.markup "      <div class=\"modal fade\" id=\"summary-modal-", number index,
    .markup "\" tabindex=\"-1\" aria-labelledby=\"summary-title-", number index,
    .markup "\" aria-hidden=\"true\">\n        <div class=\"modal-dialog\"><div class=\"modal-content\">",
    .markup "\n          <div class=\"modal-header\"><h5 class=\"modal-title\" id=\"summary-title-",
    number index,
    .markup "\">Plan summary</h5><button type=\"button\" class=\"btn-close\" data-bs-dismiss=\"modal\"",
    .markup " aria-label=\"Close\"></button></div>\n          <div class=\"modal-body\"",
    .markup " id=\"summary-body-", number index, .markup "\">", .text c.summaryBody,
    .markup "</div>\n        </div></div>\n      </div>\n    </div>\n  </div>\n</div>\n"]

end PlanItem

/-- **The item of a plan.** -/
def planItem (p : Plan) (index : Nat) (details : String) (c : Controls) : List Piece :=
  PlanItem.heading p index ++ PlanItem.table p.stops ++ PlanItem.toolbar index details c
    ++ PlanItem.dialog index c

/-- A control in the page, and the plan that it acts on. -/
structure Binding where
  key : ElementId
  planId : String
  deriving Repr, DecidableEq, Inhabited

/-- A written item and its bindings. -/
structure Fragment where
  index : Nat
  html : String
  bindings : List Binding
  deriving Repr, DecidableEq, Inhabited

/-- **The fragment of a plan.** -/
def Fragment.ofPlan (p : Plan) (index : Nat) (details : String) (c : Controls) : Fragment :=
  { index := index
    html := Html.render (planItem p index details c)
    bindings := Control.all.map fun control => ⟨⟨control, index⟩, p.id⟩ }

end PlanBrowser

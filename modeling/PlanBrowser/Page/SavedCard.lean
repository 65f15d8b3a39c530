import PlanBrowser.Html.Piece
import PlanBrowser.Plan.Saved

/-!
# The card of a saved plan

The profile page shows each saved plan as a card with its destination, its date and a link to each place.
Cards past the number that is shown are there, but hidden.

* `savedCard` — the card of a saved plan.
-/

namespace PlanBrowser

open Html (Piece flag)

/-- The line of a saved place. -/
def SavedStop.line (s : SavedStop) : List Piece :=
  [.markup "      <li class=\"list-group-item\"><a class=\"card-link\" href=\"", .text s.link,
    .markup "\">", .text s.name, .markup "</a></li>\n"]

/-- **The card of a saved plan** of a user; the card at `index` is hidden unless `shown` exceeds it. -/
def savedCard (p : SavedPlan) (user : String) (index shown : Nat) : List Piece :=
  [.markup "<div class=\"card rounded mb-2\" style=\"max-width: 350px;",
    flag (decide (shown ≤ index)) " display: none;",
    .markup "\">\n  <div class=\"card-body\">\n    <h5 class=\"card-title\">", .text p.destination,
    .markup "</h5>\n    <h6 class=\"card-subtitle\">", .text p.date,
    .markup "</h6>\n    <ul class=\"list-group list-group-flush\">\n"]
  ++ p.stops.flatMap SavedStop.line
  ++ [.markup "    </ul>\n    <button type=\"button\" class=\"btn btn-outline-warning m-1 float-end\"",
    .markup " data-planid=\"", .text p.id, .markup "\" data-user=\"", .text user,
    .markup "\">delete</button>\n    <a class=\"btn btn-outline-info float-end m-1\" href=\"plans/",
    .text p.planId, .markup "\" role=\"button\">details</a>\n  </div>\n</div>\n"]

end PlanBrowser

import PlanBrowser.Html.Piece

/-!
# Whole pages

The results page lists the items of the shown plans, the profile page the cards of the saved ones.  Both have
the same head, the same navigation bar and the same foot.

* `resultsPage` — the results of a search;
* `profilePage` — the profile of a user.
-/

namespace PlanBrowser.Page

open Html (Piece flag)

/-- The beginning of every page, up to its title. -/
def head : List Piece :=
  [.markup "<!DOCTYPE html>\n<html lang=\"en\">\n<head>\n  <meta charset=\"utf-8\"/>\n",
    .markup "  <meta content=\"width=device-width, initial-scale=1.0\" name=\"viewport\"/>\n",
    .markup "  <link href=\"",
    .markup "https://cdn.jsdelivr.net/npm/bootstrap@5.3.3/dist/css/bootstrap.min.css",
    .markup "\" rel=\"stylesheet\"/>\n  <link href=\"",
    .markup "https://cdn.jsdelivr.net/npm/bootstrap-icons@1.11.3/font/bootstrap-icons.min.css",
    .markup "\" rel=\"stylesheet\"/>\n"]

/-- The end of every page: the button that leads back to the top, and the scripts. -/
def foot : List Piece :=
  [.markup "<button id=\"scroll-to-top\" type=\"button\" class=\"btn btn-primary position-fixed ",
    .markup "bottom-0 end-0 m-3\" style=\"display: none\" title=\"back to top\">",
    .markup "<i class=\"bi bi-arrow-up\"></i></button>\n",
    .markup "<script src=\"",
    .markup "https://cdn.jsdelivr.net/npm/bootstrap@5.3.3/dist/js/bootstrap.bundle.min.js",
    .markup "\"></script>\n<script>\n",
    .markup "  document.querySelectorAll('[data-bs-toggle=\"tooltip\"]').forEach(function (el) \x7b\n",
    .markup "    new bootstrap.Tooltip(el);\n  \x7d);\n",
    .markup "  var toTop = document.getElementById(\"scroll-to-top\");\n",
    .markup "  window.addEventListener(\"scroll\", function () \x7b\n",
    .markup "    toTop.style.display = window.scrollY > 200 ? \"block\" : \"none\";\n  \x7d);\n",
    .markup "  toTop.addEventListener(\"click\", function () \x7b\n",
    .markup "    window.scrollTo(\x7b top: 0, behavior: \"smooth\" \x7d);\n  \x7d);\n",
    .markup "</script>\n</body>\n</html>\n"]

/-- The title and the navigation bar with the user's name. -/
def opening (title user : String) : List Piece :=
  [.markup "  <title>", .text title,
    .markup " | Vacation Planner</title>\n</head>\n<body>\n",
    .markup "<nav class=\"navbar navbar-expand-lg bg-body-tertiary mb-3\">\n",
    .markup "  <div class=\"container\">\n",
    .markup "    <a class=\"navbar-brand\" href=\"/\">Vacation Planner</a>\n",
    .markup "    <a class=\"nav-link\" id=\"user-profile\" href=\"/v1/profile\">", .text user,
    .markup "</a>\n  </div>\n</nav>\n<main class=\"container\">\n"]

/-- The results page, around the pieces of its items. -/
def results (destination user : String) (items : List Piece) (moreVisible : Bool) : List Piece :=
  head ++ opening destination user
  ++ [.markup "<h1 class=\"h3 mb-3\" id=\"travel-destination\">", .text destination,
    .markup "</h1>\n<div class=\"accordion\" id=\"plans\">\n"]
  ++ items
  ++ [.markup "</div>\n<div class=\"d-grid my-3\"><button id=\"load-more-btn\" type=\"button\"",
    .markup " class=\"btn btn-outline-primary\"", flag (!moreVisible) " style=\"display: none\"",
    .markup ">load more</button></div>\n</main>\n"]
  ++ foot

/-- The card of the place that the user searched for most often. -/
def mostSearchedCard (place : String) : List Piece :=
  [.markup "<div class=\"card mb-3\" id=\"most-searched-place\" style=\"max-width: 350px;\">",
    .markup "<div class=\"card-body\"><h5 class=\"card-title\">Most searched</h5>",
    .markup "<p class=\"card-text\">", .text place, .markup "</p></div></div>\n"]

/-- The profile page, around the pieces of its cards. -/
def profile (user : String) (mostSearched : Option String) (cards : List Piece) (more : Bool) :
    List Piece :=
  head ++ opening user user
  ++ (mostSearched.map mostSearchedCard).getD []
  ++ [.markup "<div id=\"cards\">\n"] ++ cards ++ [.markup "</div>\n"]
  ++ [flag more ("<button id=\"load-more-plans-btn\" type=\"button\""
    ++ " class=\"btn btn-outline-primary\">load more</button>\n"), .markup "</main>\n"]
  ++ foot

end PlanBrowser.Page

namespace PlanBrowser

open Html (Piece)

/-- **The results page** for written items; `moreVisible` shows the control that loads more. -/
def resultsPage (destination user : String) (items : List String) (moreVisible : Bool) : String :=
  Html.render (Page.results destination user (items.map Piece.markup) moreVisible)

/-- **The profile page** for written cards; while there are more cards than are shown, it has a control that
shows more. -/
def profilePage (user : String) (mostSearched : Option String) (cards : List String) (shown : Nat) :
    String :=
  Html.render (Page.profile user mostSearched (cards.map Piece.markup)
    (decide (shown < cards.length)))

end PlanBrowser

import PlanBrowser.Text.Blank
import PlanBrowser.Url.Derive

/-!
# Searches

A results page is the page of one **search**: for a location, on a date, for a number of plans.  The search is
read from the parameters of the page's URL.  The number of plans can only grow; the page URL itself stays as it
was opened.

The plans of the search are fetched from its **data URL**: the page URL with the parameter `json_only`, once and
last, and with the number of plans overridden if another number is asked for.

* `Search`, `Search.Fault` — a search, and why a text is not the page of one;
* `Search.ofPage` — the search of a page URL;
* `Search.grow` — the search for more plans;
* `Search.dataUrl` — where the plans are.
-/

namespace PlanBrowser

open Url (Parameter)

/-- A search for plans. -/
structure Search where
  page : Url
  location : String
  date : String
  /-- How many plans are asked for. -/
  count : Nat
  deriving Repr, DecidableEq, Inhabited

namespace Search

/-- Why a text is not the URL of a results page. -/
inductive Fault where
  | noUrl (text : String) (cause : Url.Fault)
  /-- The page is not on the web. -/
  | notWeb (text : String)
  | noLocation
  | badCount (value : String)
  deriving Repr, DecidableEq

/-- A fault in words. -/
def Fault.message : Fault → String
  | noUrl text cause => "invalid page URL: " ++ text ++ ": " ++ cause.message
  | notWeb text => "page URL must be http or https: " ++ text
  | noLocation => "page URL is missing the 'location' query parameter"
  | badCount value => "invalid numberResults '" ++ value ++ "', expected positive integer"

/-- The parameter that holds the location. -/
def locationKey : String := "location"

/-- The parameter that holds the date. -/
def dateKey : String := "date"

/-- The parameter that holds the number of plans. -/
def countKey : String := "numberResults"

/-- The parameter that asks for data instead of a page. -/
def dataKey : String := "json_only"

/-- How many plans are asked for when the page does not say. -/
def defaultCount : Nat := 5

/-- The trimmed value of the last parameter with a key; empty without one. -/
def lastValue (key : String) (ps : List Parameter) : String :=
  match (ps.filter (·.1 = key)).getLast? with
  | some p => Text.trim p.2
  | none => ""

/-- A number of plans, from one to the largest word, between blanks. -/
def readCount (value : String) : Except Fault Nat :=
  match Text.readWord? (Text.trim value) with
  | some (n + 1) => .ok (n + 1)
  | _ => .error (.badCount value)

/-- All numbers of plans among some parameters. -/
def counts (ps : List Parameter) : Except Fault (List Nat) :=
  (ps.filter (·.1 = countKey)).mapM fun p => readCount p.2

/-- **The search of a page URL.**  Every number of plans must be right, and the last one counts. -/
def ofPage (text : String) : Except Fault Search := do
  match Url.parse (Text.trim text) with
  | .error cause => throw (.noUrl text cause)
  | .ok page =>
    if page.scheme ≠ "http" ∧ page.scheme ≠ "https" then throw (.notWeb text)
    let ps := page.parameters
    let numbers ← counts ps
    let location := lastValue locationKey ps
    if location = "" then throw .noLocation
    pure ⟨page, location, lastValue dateKey ps, numbers.getLast?.getD defaultCount⟩

/-- **The search for more plans**; a smaller number changes nothing. -/
def grow (s : Search) (count : Nat) : Search :=
  { s with count := max s.count count }

/-- The parameter of a number of plans. -/
def countParameter (n : Nat) : Parameter :=
  (countKey, Text.written n)

/-- A parameter with the number of plans overridden, if it holds one. -/
def override (count : Option Nat) (p : Parameter) : Parameter :=
  match count with
  | some n => if p.1 = countKey then countParameter n else p
  | none => p

/-- The parameters of the data URL. -/
def dataParameters (count : Option Nat) (ps : List Parameter) : List Parameter :=
  let kept := (ps.filter (·.1 ≠ dataKey)).map (override count)
  let added := match count with
    | some n => if ps.any (·.1 = countKey) then [] else [countParameter n]
    | none => []
  kept ++ added ++ [(dataKey, "true")]

/-- **The data URL**, for another number of plans if one is given. -/
def dataUrl (s : Search) (count : Option Nat) : Url :=
  s.page.withParameters (dataParameters count s.page.parameters)

end Search

end PlanBrowser

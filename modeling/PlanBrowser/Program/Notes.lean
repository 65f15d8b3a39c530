import PlanBrowser.Session.Action
import PlanBrowser.Session.Paging

/-!
# What the program tells about its work

While the result goes to a file or to standard output, the program tells on standard error what it does, line
by line.

* `labelled` — a line with a label;
* `attention`, `success`, `trouble` — lines with a mark;
* `actionNote` — what came of an action on a plan;
* `loadWords`, `stepNote`, `countNote` — how the paging goes.
-/

namespace PlanBrowser.Program

/-- A text made at least ten characters wide. -/
def padded (s : String) : String :=
  s ++ String.ofList (List.replicate (10 - s.length) ' ')

/-- **A line with a label.** -/
def labelled (label value : String) : String :=
  ":: " ++ padded label ++ ": " ++ value

/-- Something that a user should know. -/
def attention (text : String) : String :=
  "[!] " ++ text

/-- Something that went well. -/
def success (text : String) : String :=
  "[+] " ++ text

/-- Something that went wrong. -/
def trouble (text : String) : String :=
  "[-] " ++ text

/-- **What came of an action on a plan.** -/
def actionNote (action : String) (index : Nat) : Except ActionFault String → String
  | .ok detail =>
    success (action ++ " " ++ Text.written index ++ if detail.isEmpty then "" else ": " ++ detail)
  | .error fault => trouble (action ++ " " ++ Text.written index ++ ": " ++ fault.message)

/-- Whether there is more to show, in words. -/
def loadWords : LoadState → String
  | .exhausted => "exhausted"
  | .more true => "loading"
  | .more false => "more available"

/-- What a step has done. -/
def stepNote (number : Nat) (step : Session.Step) (shown : Nat) : String :=
  labelled "Load more" ("click " ++ Text.written number ++ ": +" ++ Text.written step.fragments.length
    ++ " plans, fetched=" ++ (if step.fetched then "yes" else "no") ++ ", shown=" ++ Text.written shown)

/-- What the page shows in the end. -/
def countNote (s : Session) : String :=
  labelled "Plans" (Text.written s.shown ++ " shown of " ++ Text.written s.available ++ " cached ("
    ++ loadWords s.loadState ++ ")")

end PlanBrowser.Program

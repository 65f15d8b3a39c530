import PlanBrowser.Page.PlanItem
import PlanBrowser.Search

/-!
# The session of a results page

A session keeps what a results page shows: the search, the batch of plans fetched last, how many of its plans
are shown, and for each shown plan the state of its controls and the failure of its last save.  These stand in two
lists, which every operation has to keep in step; the entries of a plan in both are its **slot**.  The batch is
replaced as a whole and never patched.

* `Session` — the state;
* `Session.start` — a session before anything is fetched;
* `LoadState` — whether there is more to show, or more being fetched;
* `Session.settle` — fits the two lists to the shown plans;
* `Slot`, `Session.slots` — the two lists as one;
* `Session.fragment?`, `Session.shownFragments` — the shown plans as parts of a page.
-/

namespace PlanBrowser

/-- The state of a results page. -/
structure Session where
  search : Search
  user : String
  /-- The plans fetched last. -/
  batch : Option Batch
  /-- How many plans are shown. -/
  shown : Nat
  /-- How many plans each step reveals. -/
  pageSize : Nat
  /-- The state of the controls of each shown plan. -/
  controls : List Controls
  /-- For each shown plan, why the last attempt to save it failed. -/
  saveErrors : List (Option String)
  /-- How many plans the fetch in flight asks for. -/
  pending : Option Nat
  deriving Inhabited

/-- Whether there is more to show. -/
inductive LoadState where
  | exhausted
  /-- There is more; `busy` while it is being fetched. -/
  | more (busy : Bool)
  deriving Repr, DecidableEq, Inhabited

namespace Session

/-- How many plans a step reveals when nobody says otherwise. -/
def defaultPageSize : Nat := 5

/-- **A session before anything is fetched**; the page shows `shown` plans already, and every step reveals at
least one. -/
def start (search : Search) (user : String) (shown pageSize : Nat) : Session :=
  { search := search
    user := user
    batch := none
    shown := shown
    pageSize := max pageSize 1
    controls := []
    saveErrors := []
    pending := none }

/-- How many plans are there. -/
def available (s : Session) : Nat :=
  match s.batch with
  | some b => b.size
  | none => 0

/-- How many plans are there and shown. -/
def visible (s : Session) : Nat :=
  min s.shown s.available

/-- A plan that is there, shown or not. -/
def plan? (s : Session) (i : Nat) : Option Plan :=
  match s.batch with
  | some b => b.plans[i]?
  | none => none

/-- The link to the details of a plan. -/
def detailLink (s : Session) (i : Nat) : String :=
  match s.batch with
  | some b => b.detailLink i
  | none => ""

/-- **Whether there is more to show.** -/
def loadState (s : Session) : LoadState :=
  if s.pending.isSome then .more true
  else if s.shown < s.available then .more false
  else .exhausted

/-- The control that loads more is there. -/
def moreVisible (s : Session) : Bool :=
  s.loadState != .exhausted

/-- The shown plans that have no controls yet. -/
def freshPlans (s : Session) : List Plan :=
  match s.batch with
  | some b => (b.plans.take s.shown).drop s.controls.length
  | none => []

/-- **Fits the two lists to the shown plans**: the entries of plans that are no longer shown go, those of other
plans come at the end. -/
def settle (s : Session) : Session :=
  let kept := { s with
    controls := s.controls.take s.visible
    saveErrors := s.saveErrors.take s.visible }
  { kept with
    controls := kept.controls ++ kept.freshPlans.map Controls.ofPlan
    saveErrors := kept.saveErrors ++ kept.freshPlans.map fun _ => none }

/-- The failure of the last attempt to save a plan. -/
def saveError? (s : Session) (i : Nat) : Option String :=
  match s.saveErrors[i]? with
  | some error => error
  | none => none

/-! ## Slots -/

end Session

/-- What a session keeps for a shown plan. -/
structure Slot where
  controls : Controls
  saveError : Option String
  deriving Repr, DecidableEq, Inhabited

/-- The slot of an untouched plan. -/
def Slot.ofPlan (p : Plan) : Slot :=
  ⟨Controls.ofPlan p, none⟩

namespace Session

/-- **The two lists as one.** -/
def slots (s : Session) : List Slot :=
  List.zipWith Slot.mk s.controls s.saveErrors

/-! ## Fragments -/

/-- The controls to show with a plan; those of an untouched plan if it has none. -/
def controlsFor (s : Session) (i : Nat) (p : Plan) : Controls :=
  match s.controls[i]? with
  | some controls => controls
  | none => Controls.ofPlan p

/-- The fragment of a plan that is there. -/
def fragment? (s : Session) (i : Nat) : Option Fragment :=
  match s.plan? i with
  | some p => some (Fragment.ofPlan p i (s.detailLink i) (s.controlsFor i p))
  | none => none

/-- The fragments of the plans from one index up to another, as far as there are plans. -/
def fragments (s : Session) (first last : Nat) : List Fragment :=
  (List.range' first (min last s.available - first)).filterMap s.fragment?

/-- **The fragments of all shown plans.** -/
def shownFragments (s : Session) : List Fragment :=
  s.fragments 0 s.shown

end Session

end PlanBrowser

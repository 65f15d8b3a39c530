import PlanBrowser.Number.Word
import PlanBrowser.Session.Basic
import PlanBrowser.Session.Dialogue

/-!
# Paging

A results page begins with one fetch and then goes on in steps.  A step reveals plans that are already there; if
none are left, it fetches the search again for more plans.  A fetch that comes back with fewer plans than are
there is ignored, and so is a fetch that comes back with nothing.  How many plans to show and how many to ask for are
sums of words, which nothing keeps from going on from zero.

* `Session.ready` — the first fetch;
* `Session.loadMore` — one step;
* `Session.beginFetch`, `Session.finishFetch` — the two halves of a step that fetches;
* `Session.refresh` — fetches the plans again and forgets what was done to them.
-/

namespace PlanBrowser.Session

/-- The session with another batch; not more plans are shown than there are. -/
def withBatch (s : Session) (b : Batch) : Session :=
  { s with batch := some b, shown := min s.shown b.size }.settle

/-- **The first fetch**: whether there are plans. -/
def ready (s : Session) : Dialogue (Session × Bool) :=
  .ask (.plans s.search none) fun
    | some b => (s.withBatch b, true)
    | none => (s, false)

/-- How many plans the next fetch asks for, or the fetch in flight. -/
def requested (s : Session) : Nat :=
  s.pending.getD (Word.sum s.search.count s.pageSize)

/-- **A fetch begins**; while one is in flight, another one does not. -/
def beginFetch (s : Session) : Session × Nat :=
  ({ s with pending := some s.requested }, s.requested)

/-- **A fetch ends**: the newly shown plans. -/
def finishFetch (s : Session) (reply : Option Batch) : Session × List Fragment :=
  let idle := { s with pending := none }
  match s.pending, reply with
  | some count, some b =>
    if b.size < s.available then (idle, [])
    else
      let next := { idle with
        search := s.search.grow count
        batch := some b
        shown := b.size }.settle
      (next, next.fragments (max s.available s.shown) b.size)
  | _, _ => (idle, [])

/-- What a step has shown. -/
structure Step where
  fragments : List Fragment
  /-- Plans had to be fetched. -/
  fetched : Bool

/-- **One step.** -/
def loadMore (s : Session) : Dialogue (Session × Step) :=
  if s.shown < s.available then
    let last := min (Word.sum s.shown s.pageSize) s.available
    let next := { s with shown := last }.settle
    .done (next, ⟨next.fragments s.shown last, false⟩)
  else
    let (waiting, count) := s.beginFetch
    .ask (.plans s.search (some count)) fun reply =>
      let (next, fragments) := waiting.finishFetch reply
      (next, ⟨fragments, true⟩)

/-- **Fetches the plans again**: the shown plans, with untouched controls. -/
def refresh (s : Session) : Dialogue (Session × Option (List Fragment)) :=
  .ask (.plans s.search (some s.search.count)) fun
    | some b =>
      let next := { s with controls := [], saveErrors := [] }.withBatch b
      (next, some next.shownFragments)
    | none => (s, none)

end PlanBrowser.Session

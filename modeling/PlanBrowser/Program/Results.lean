import PlanBrowser.Output
import PlanBrowser.Program.Notes
import PlanBrowser.Settings.Run

/-!
# A run over a results page, and one over a profile

A run opens a page, does with it what the settings say, and leaves the page as output.  The network may fail at
every request: the run tells so and goes on.

* `Work` — what a run has so far: the state, the link, and the lines told;
* `openResults`, `steps`, `likes`, `saves`, `dislikes`, `summaries`, `refreshed` — the parts of a run over
  results;
* `results`, `profile` — **the two runs**.
-/

namespace PlanBrowser.Program

/-- What a run has so far. -/
structure Work (σ : Type) where
  state : σ
  link : Link
  /-- The lines told so far. -/
  notes : List String

namespace Work

variable {σ : Type}

/-- One line more. -/
def tell (w : Work σ) (note : String) : Work σ :=
  { w with notes := w.notes ++ [note] }

/-- An operation of a session, for which a client asks, and the line that tells about it. -/
def perform {α : Type} (c : Client) (w : Work Session) (d : Dialogue (Session × α))
    (note : Session → α → List String) : Work Session :=
  let ((s, a), l) := d.through c w.link
  { state := s, link := l, notes := w.notes ++ note s a }

end Work

/-- What came of an action that has no result. -/
def unitNote (action : String) (index : Nat) (r : Except ActionFault Unit) : List String :=
  [actionNote action index (r.map fun _ => "")]

/-! ## Results -/

/-- The page is opened. -/
def openResults (c : Client) (w : Work Session) : Work Session :=
  w.perform c w.state.ready fun _ found => if found then [] else [attention "no plans available"]

/-- One step more is made. -/
def step (c : Client) (w : Work Session) (number : Nat) : Work Session :=
  w.perform c w.state.loadMore fun s r => [stepNote number r s.shown]

/-- Some steps are made. -/
def steps (c : Client) (w : Work Session) (count : Nat) : Work Session :=
  (List.range' 1 count).foldl (step c) w

/-- Plans are liked. -/
def likes (w : Work Session) (indexes : List Nat) : Work Session :=
  indexes.foldl (fun w i =>
    let (s, r) := w.state.like i
    { w with state := s, notes := w.notes ++ unitNote "liked plan" i r }) w

/-- Plans are saved. -/
def saves (c : Client) (now : Calendar.Instant) (w : Work Session) (indexes : List Nat) : Work Session :=
  indexes.foldl (fun w i => w.perform c (w.state.save i now) fun _ r => unitNote "saved plan" i r) w

/-- Plans are disliked. -/
def dislikes (c : Client) (w : Work Session) (indexes : List Nat) : Work Session :=
  indexes.foldl (fun w i => w.perform c (w.state.dislike i) fun _ r => unitNote "disliked plan" i r) w

/-- Summaries are asked for. -/
def summaries (c : Client) (w : Work Session) (indexes : List Nat) : Work Session :=
  indexes.foldl (fun w i =>
    w.perform c (w.state.summarise i) fun _ r => [actionNote "summary for plan" i r]) w

/-- The plans are fetched again, if that is wanted. -/
def refreshed (c : Client) (w : Work Session) (wanted : Bool) : Work Session :=
  if wanted then
    w.perform c w.state.refresh fun _ r =>
      if r.isNone then [attention "refresh failed, keeping current plans"] else []
  else w

/-- All that a run does with a results page. -/
def resultsWork (r : RunSettings) (c : Client) (now : Calendar.Instant) (w : Work Session) : Work Session :=
  let w := steps c (openResults c w) r.clicks
  let w := saves c now (likes w r.like) r.save
  let w := summaries c (dislikes c w r.dislike) r.summary
  let w := refreshed c w r.refresh
  w.tell (countNote w.state)

/-- What a run leaves. -/
structure Product where
  /-- The output, or why there is none. -/
  output : Except String String
  notes : List String
  requests : List Request

/-- A run that cannot begin. -/
def Product.failed (message : String) : Product :=
  ⟨.error message, [], []⟩

/-- **A run over a results page.** -/
def results (r : RunSettings) (user : String) (now : Calendar.Instant) (network : Network) : Product :=
  match Search.ofPage r.url with
  | .error fault => .failed fault.message
  | .ok search =>
    match Client.ofSearch r.options search with
    | .error failure => .failed failure.message
    | .ok c =>
      let w := resultsWork r c now {
        state := .start search user r.shown r.pageSize
        link := .unused network
        notes := [labelled "Location" search.location, labelled "Date" search.date, labelled "User" user] }
      ⟨.ok (w.state.output r.format), w.notes, w.link.sent⟩

/-! ## Profiles -/

/-- A saved plan is deleted. -/
def deletion (c : Client) (w : Work Profile) (id : String) : Work Profile :=
  let ((p, result), l) := w.state.delete c w.link id
  { state := p, link := l, notes := w.notes ++ [match result with
    | .ok () => success ("deleted plan " ++ id)
    | .error failure => trouble ("delete plan " ++ id ++ ": " ++ failure.message)] }

/-- **A run over a profile.** -/
def profile (r : RunSettings) (user : String) (network : Network) : Product :=
  match Client.ofServer r.options r.url with
  | .error failure => .failed failure.message
  | .ok c =>
    let (p, l) := Profile.load c (.unused network) user
    let w := r.delete.foldl (deletion c) ⟨p, l, [labelled "User" user]⟩
    ⟨.ok (w.state.output r.format),
      w.notes ++ [labelled "Saved" (Text.written w.state.plans.length)], w.link.sent⟩

/-- **The run that the settings ask for.** -/
def product (r : RunSettings) (now : Calendar.Instant) (network : Network) : Product :=
  let user := Identity.actingUser r.username r.options.token now.seconds
  if r.profile then profile r user network else results r user now network

end PlanBrowser.Program

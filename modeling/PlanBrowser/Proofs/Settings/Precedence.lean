import PlanBrowser.Proofs.Result
import PlanBrowser.Settings.Run

/-!
# Where a setting comes from

A command line and a settings file have ten settings in common.  What holds for a run is what the command line says; only
where it says nothing, the file is asked, and where the file says nothing either, there is a default or the run cannot
begin.  So it makes no difference whether the file says something or a command line that leaves it open, except that only
the header line of a command line is looked at.

* `Setting`, `Setting.Value` — the ten settings;
* `Arguments.value?`, `Config.value?`, `given` — what is said about a setting;
* `Arguments.MakesSense`, `Arguments.check_eq_ok_iff` — which command lines make sense;
* `RunSettings.Follows` — what a run makes of what is said about a setting;
* `RunSettings.ComesFrom`, `RunSettings.ofArguments_eq_ok_iff` — **what a command line and a file come to**;
* `Arguments.taking`, `Config.giving` — a command line that says what the file said, and what is left of the file;
* `RunSettings.command_line_goes_first` — **the command line goes first**, and what it leaves open can stand in either.
-/

namespace PlanBrowser

open CommandLine (Arguments)

/-- The settings that a command line and a settings file have in common. -/
inductive Setting where
  | url
  | username
  | token
  | timeout
  | proxy
  | header
  | pageSize
  | shown
  | output
  | format
  deriving Repr, DecidableEq

/-- What can be said about a setting: a number or a text. -/
def Setting.Value : Setting → Type
  | timeout | pageSize | shown => Nat
  | url | username | token | proxy | header | output | format => String

/-! ## What a command line says -/

namespace CommandLine.Arguments

/-- **What the command line says** about a setting. -/
def value? (a : Arguments) : (x : Setting) → Option x.Value
  | .url => a.url
  | .username => a.user
  | .token => a.token
  | .timeout => a.timeout
  | .proxy => a.proxy
  | .header => a.header
  | .pageSize => a.pageSize
  | .shown => a.shown
  | .output => a.output
  | .format => a.format

/-- The command line, with other things said about the settings. -/
def withValues (a : Arguments) (said : (x : Setting) → Option x.Value) : Arguments :=
  { a with
    url := said .url
    user := said .username
    token := said .token
    timeout := said .timeout
    proxy := said .proxy
    header := said .header
    pageSize := said .pageSize
    shown := said .shown
    output := said .output
    format := said .format }

theorem value?_withValues (a : Arguments) (said : (x : Setting) → Option x.Value) (x : Setting) :
    (a.withValues said).value? x = said x := by
  cases x <;> rfl

/-- **A command line that makes sense.** -/
structure MakesSense (a : Arguments) : Prop where
  pageSize : a.pageSize ≠ some 0
  timeout : a.timeout ≠ some 0
  format : ∀ name, a.format = some name → (Format.read? name).isSome = true
  header : ∀ line, a.header = some line → ':' ∈ line.toList
  unmixed : ¬ (a.wantsProfile = true ∧ a.wantsActions = true)
  named : ∀ id ∈ a.delete, Text.isBlankText id = false

theorem checkFormat_eq_ok_iff {format : Option String} {u : Unit} :
    checkFormat format = .ok u ↔ ∀ name, format = some name → (Format.read? name).isSome = true := by
  cases format with
  | none => simp [checkFormat]
  | some name => cases h : (Format.read? name).isSome <;> simp [checkFormat, h]

theorem checkHeader_eq_ok_iff {header : Option String} {u : Unit} :
    checkHeader header = .ok u ↔ ∀ line, header = some line → ':' ∈ line.toList := by
  cases header with
  | none => simp [checkHeader]
  | some line => by_cases h : ':' ∈ line.toList <;> simp [checkHeader, h]

/-- **A command line passes** exactly if it makes sense. -/
theorem check_eq_ok_iff {a : Arguments} {u : Unit} : a.check = .ok u ↔ a.MakesSense := by
  have hnamed : ¬ a.delete.any Text.isBlankText = true ↔ ∀ id ∈ a.delete, Text.isBlankText id = false := by
    simp only [List.any_eq_true, not_exists, not_and, Bool.not_eq_true]
  simp only [check, refuse_bind_eq_ok, bind_eq_ok, refuse_eq_ok, checkFormat_eq_ok_iff, checkHeader_eq_ok_iff, hnamed,
    Bool.and_eq_true]
  constructor
  · rintro ⟨hpageSize, htimeout, -, hformat, -, hheader, hunmixed, hnamed, -⟩
    exact ⟨hpageSize, htimeout, hformat, hheader, hunmixed, hnamed⟩
  · intro h
    exact ⟨h.pageSize, h.timeout, (), h.format, (), h.header, h.unmixed, h.named, trivial⟩

/-- Nothing is to be done on a results page. -/
theorem wantsActions_eq_false_iff (a : Arguments) :
    a.wantsActions = false ↔
      a.clicks = 0 ∧ a.refresh = false ∧ a.save = [] ∧ a.like = [] ∧ a.dislike = [] ∧ a.summary = [] := by
  simp [wantsActions, and_assoc, and_comm]

end CommandLine.Arguments

/-! ## What the settings file says -/

namespace Config

/-- **What the settings file says** about a setting. -/
def value? (c : Config) : (x : Setting) → Option x.Value
  | .url => c.url
  | .username => c.username
  | .token => c.token
  | .timeout => c.timeout
  | .proxy => c.proxy
  | .header => c.header
  | .pageSize => c.pageSize
  | .shown => c.shown
  | .output => c.output
  | .format => c.format

/-- The settings file, with other things said about the settings. -/
def withValues (c : Config) (said : (x : Setting) → Option x.Value) : Config :=
  { c with
    url := said .url
    username := said .username
    token := said .token
    timeout := said .timeout
    proxy := said .proxy
    header := said .header
    pageSize := said .pageSize
    shown := said .shown
    output := said .output
    format := said .format }

theorem value?_withValues (c : Config) (said : (x : Setting) → Option x.Value) (x : Setting) :
    (c.withValues said).value? x = said x := by
  cases x <;> rfl

end Config

/-- **What is said about a setting**: by the command line, else by the file. -/
def given (a : Arguments) (c : Config) (x : Setting) : Option x.Value :=
  a.value? x <|> c.value? x

theorem given_of_said {a : Arguments} {x : Setting} {v : x.Value} (h : a.value? x = some v) (c : Config) :
    given a c x = some v := by
  rw [given, h]
  rfl

theorem given_of_open {a : Arguments} {x : Setting} (h : a.value? x = none) (c : Config) :
    given a c x = c.value? x := by
  rw [given, h]
  rfl

/-! ## What they come to -/

namespace RunSettings

/-- **What a run makes of what is said about a setting**, if anything is. -/
def Follows (e : Environment) (r : RunSettings) : (x : Setting) → Option x.Value → Prop
  | .url, said => said.map Text.trim = some r.url
  | .username, said => r.username = said
  | .token, said => r.options.token = said
  | .timeout, said => r.options.timeout = said.getD Options.defaultTimeout
  | .proxy, said => r.options.proxy = said
  | .header, said => r.options.header = said
  | .pageSize, said => r.pageSize = said.getD Session.defaultPageSize
  | .shown, said => r.shown = said.getD r.pageSize
  | .output, said => r.output = said.map e.expand
  | .format, some name => Format.read? name = some r.format
  | .format, none => r.format = (r.output.bind Format.ofPath?).getD .html

/-- **The settings of a run that a command line and a file come to.** -/
structure ComesFrom (e : Environment) (a : Arguments) (c : Config) (r : RunSettings) : Prop where
  follows : ∀ x, r.Follows e x (given a c x)
  url : r.url ≠ ""
  timeout : r.options.timeout ≠ 0
  pageSize : r.pageSize ≠ 0
  clicks : r.clicks = a.clicks
  save : r.save = a.save
  like : r.like = a.like
  dislike : r.dislike = a.dislike
  summary : r.summary = a.summary
  refresh : r.refresh = a.refresh
  profile : r.profile = a.wantsProfile
  delete : r.delete = a.delete
  plain : r.plain = isPlain a c

theorem chooseUrl_eq_ok_iff {a : Arguments} {c : Config} {url : String} :
    chooseUrl a c = .ok url ↔ (a.url <|> c.url).map Text.trim = some url ∧ url ≠ "" := by
  rw [chooseUrl]
  cases (a.url <|> c.url).map Text.trim with
  | none => simp
  | some u =>
    by_cases h : u = ""
    · simp [h, eq_comm]
    · simp only [if_neg h, Except.ok.injEq, Option.some.injEq]
      constructor
      · rintro rfl
        exact ⟨rfl, h⟩
      · exact And.left

theorem positive_eq_ok_iff {fault : SettingsFault} {m n : Nat} : positive fault n = .ok m ↔ m = n ∧ m ≠ 0 := by
  rw [positive]
  by_cases h : n = 0
  · simp [h]
  · simp only [if_neg h, Except.ok.injEq]
    constructor
    · rintro rfl
      exact ⟨rfl, h⟩
    · rintro ⟨rfl, -⟩
      rfl

theorem chooseFormat_eq_ok_iff {e : Environment} {r : RunSettings} {said : Option String} :
    chooseFormat said r.output = .ok r.format ↔ r.Follows e .format said := by
  cases said with
  | none =>
    show Except.ok ((r.output.bind Format.ofPath?).getD .html) = Except.ok r.format ↔
      r.format = (r.output.bind Format.ofPath?).getD .html
    rw [Except.ok.injEq, eq_comm]
  | some name =>
    show chooseFormat (some name) r.output = .ok r.format ↔ Format.read? name = some r.format
    cases h : Format.read? name <;> simp [chooseFormat, h]

/-- **What a command line and a file come to.** -/
theorem ofArguments_eq_ok_iff {e : Environment} {a : Arguments} {c : Config} {r : RunSettings} :
    ofArguments e a c = .ok r ↔ a.MakesSense ∧ r.ComesFrom e a c := by
  simp only [ofArguments, bind_eq_ok, mapError_eq_ok, Arguments.check_eq_ok_iff, chooseUrl_eq_ok_iff,
    positive_eq_ok_iff]
  constructor
  · rintro ⟨-, hsense, url, ⟨hurl, hne⟩, timeout, ⟨htimeout, htimeoutne⟩, pageSize, ⟨hpageSize, hpageSizene⟩,
      format, hformat, ⟨⟩⟩
    refine ⟨hsense, ?_, hne, htimeoutne, hpageSizene, rfl, rfl, rfl, rfl, rfl, rfl, rfl, rfl, rfl⟩
    intro x
    cases x with
    | url => exact hurl
    | timeout => exact htimeout
    | pageSize => exact hpageSize
    | format => exact chooseFormat_eq_ok_iff.mp hformat
    | username | token | proxy | header | shown | output => rfl
  · rintro ⟨hsense, h⟩
    have husername : r.username = (a.user <|> c.username) := h.follows .username
    have htoken : r.options.token = (a.token <|> c.token) := h.follows .token
    have hproxy : r.options.proxy = (a.proxy <|> c.proxy) := h.follows .proxy
    have hheader : r.options.header = (a.header <|> c.header) := h.follows .header
    have hshown : r.shown = (a.shown <|> c.shown).getD r.pageSize := h.follows .shown
    have houtput : r.output = (a.output <|> c.output).map e.expand := h.follows .output
    refine ⟨(), hsense, r.url, ⟨h.follows .url, h.url⟩, r.options.timeout, ⟨h.follows .timeout, h.timeout⟩,
      r.pageSize, ⟨h.follows .pageSize, h.pageSize⟩, r.format, ?_, ?_⟩
    · rw [← houtput]
      exact chooseFormat_eq_ok_iff.mpr (h.follows .format)
    · rw [← husername, ← htoken, ← hproxy, ← hheader, ← hshown, ← houtput, ← h.clicks, ← h.save, ← h.like, ← h.dislike,
        ← h.summary, ← h.refresh, ← h.profile, ← h.delete, ← h.plain]
      rfl

/-- With the profile nothing is done on a results page. -/
theorem ComesFrom.nothing_to_do {e : Environment} {a : Arguments} {c : Config} {r : RunSettings}
    (h : r.ComesFrom e a c) (hsense : a.MakesSense) (hprofile : r.profile = true) :
    r.clicks = 0 ∧ r.refresh = false ∧ r.save = [] ∧ r.like = [] ∧ r.dislike = [] ∧ r.summary = [] := by
  rw [h.clicks, h.refresh, h.save, h.like, h.dislike, h.summary, ← a.wantsActions_eq_false_iff, ← Bool.not_eq_true]
  intro hactions
  rw [h.profile] at hprofile
  exact hsense.unmixed ⟨hprofile, hactions⟩

end RunSettings

/-! ## From the file to the command line -/

section Moved

variable {a : Arguments} {c : Config} {moves keeps : Setting → Bool}

/-- **A command line that says what the file said**: some settings that it leaves open are set as the file sets them. -/
def CommandLine.Arguments.taking (a : Arguments) (c : Config) (moves : Setting → Bool) : Arguments :=
  a.withValues fun x => a.value? x <|> if moves x then c.value? x else .none

/-- **What is left of the file**: it may keep what it said of settings that the command line took, or not. -/
def Config.giving (c : Config) (a : Arguments) (moves keeps : Setting → Bool) : Config :=
  c.withValues fun x => if moves x && (a.value? x).isNone && !keeps x then none else c.value? x

/-- A command line does not lose what it says. -/
theorem value?_taking_of_said (x : Setting) {v : x.Value} (h : a.value? x = some v) :
    (a.taking c moves).value? x = some v := by
  rw [Arguments.taking, Arguments.value?_withValues, h]
  rfl

/-- A command line takes nothing but what is said. -/
theorem given_of_value?_taking (x : Setting) {v : x.Value} (h : (a.taking c moves).value? x = some v) :
    given a c x = some v := by
  rw [Arguments.taking, Arguments.value?_withValues] at h
  rw [given]
  cases hsaid : a.value? x with
  | some w =>
    rw [hsaid] at h
    exact h
  | none =>
    rw [hsaid] at h
    cases hmoves : moves x with
    | false =>
      rw [hmoves] at h
      cases h
    | true =>
      rw [hmoves] at h
      exact h

/-- **The same is said** of every setting, by one or the other. -/
theorem given_moved (x : Setting) :
    given (a.taking c moves) (c.giving a moves keeps) x = given a c x := by
  rw [given, given, Arguments.taking, Config.giving, Arguments.value?_withValues, Config.value?_withValues]
  cases a.value? x with
  | some v => rfl
  | none => cases moves x <;> cases keeps x <;> cases c.value? x <;> rfl

namespace RunSettings

variable {e : Environment} {r : RunSettings}

theorem comesFrom_moved_iff :
    r.ComesFrom e (a.taking c moves) (c.giving a moves keeps) ↔ r.ComesFrom e a c := by
  constructor
  · intro h
    exact { h with follows := fun x => given_moved x ▸ h.follows x }
  · intro h
    exact { h with follows := fun x => (given_moved x).symm ▸ h.follows x }

theorem ComesFrom.follows_taking (h : r.ComesFrom e a c) (x : Setting) {v : x.Value}
    (hx : (a.taking c moves).value? x = some v) : r.Follows e x (some v) := by
  rw [← given_of_value?_taking x hx]
  exact h.follows x

/-- A command line that takes settings that hold for a run makes sense, except that the header line needs a colon. -/
theorem ComesFrom.makesSense_taking_iff (h : r.ComesFrom e a c) :
    (a.taking c moves).MakesSense ↔
      a.MakesSense ∧ ∀ line, (a.taking c moves).header = some line → ':' ∈ line.toList := by
  constructor
  · intro hsense
    refine ⟨⟨?_, ?_, ?_, ?_, hsense.unmixed, hsense.named⟩, hsense.header⟩
    · exact fun hzero => hsense.pageSize (value?_taking_of_said .pageSize hzero)
    · exact fun hzero => hsense.timeout (value?_taking_of_said .timeout hzero)
    · exact fun name hname => hsense.format name (value?_taking_of_said .format hname)
    · exact fun line hline => hsense.header line (value?_taking_of_said .header hline)
  · rintro ⟨hsense, hheader⟩
    refine ⟨?_, ?_, ?_, hheader, hsense.unmixed, hsense.named⟩
    · exact fun hzero => h.pageSize (h.follows_taking .pageSize hzero)
    · exact fun hzero => h.timeout (h.follows_taking .timeout hzero)
    · intro name hname
      have hread : Format.read? name = some r.format := h.follows_taking .format hname
      rw [hread]
      rfl

end RunSettings

end Moved

namespace RunSettings

/-- **The command line goes first.**  A run has a URL, waits for some time and shows some plans at a time.  Of each setting
it makes what the command line says, and only where this says nothing, what the file says, or nobody.  With the profile
nothing is done on a results page.  And any settings of the file can stand in a command line that leaves them open instead:
the run is the same, unless a header line without a colon keeps it from beginning. -/
theorem command_line_goes_first (e : Environment) (a : Arguments) (c : Config) :
    (∀ r, ofArguments e a c = .ok r →
      r.url ≠ "" ∧ 1 ≤ r.options.timeout ∧ 1 ≤ r.pageSize ∧
      (∀ x v, a.value? x = some v → r.Follows e x (some v)) ∧
      (∀ x, a.value? x = none → r.Follows e x (c.value? x)) ∧
      (r.profile = true →
        r.clicks = 0 ∧ r.refresh = false ∧ r.save = [] ∧ r.like = [] ∧ r.dislike = [] ∧ r.summary = [])) ∧
    ∀ (moves keeps : Setting → Bool) (r : RunSettings),
      ofArguments e (a.taking c moves) (c.giving a moves keeps) = .ok r ↔
        ofArguments e a c = .ok r ∧ ∀ line, (a.taking c moves).header = some line → ':' ∈ line.toList := by
  constructor
  · intro r hr
    obtain ⟨hsense, h⟩ := ofArguments_eq_ok_iff.mp hr
    refine ⟨h.url, Nat.one_le_iff_ne_zero.mpr h.timeout, Nat.one_le_iff_ne_zero.mpr h.pageSize, ?_, ?_,
      h.nothing_to_do hsense⟩
    · intro x v hsaid
      rw [← given_of_said hsaid c]
      exact h.follows x
    · intro x hopen
      rw [← given_of_open hopen c]
      exact h.follows x
  · intro moves keeps r
    rw [ofArguments_eq_ok_iff, ofArguments_eq_ok_iff, comesFrom_moved_iff]
    constructor
    · rintro ⟨hsense, h⟩
      obtain ⟨hsense, hheader⟩ := h.makesSense_taking_iff.mp hsense
      exact ⟨⟨hsense, h⟩, hheader⟩
    · rintro ⟨⟨hsense, h⟩, hheader⟩
      exact ⟨h.makesSense_taking_iff.mpr ⟨hsense, hheader⟩, h⟩

/-- A user's folder, a command line, and a file that says other things and has a header line without a colon. -/
def folder : Environment :=
  ⟨some "/home/alice", none, none, none⟩

def alice : Arguments :=
  { Arguments.none with user := some "alice", timeout := some 7, output := some "~/out.json" }

def oslo : Config :=
  { Config.empty with
    url := some " http://h/v1/plans?location=Oslo"
    username := some "bob"
    timeout := some 3
    header := some "plain"
    pageSize := some 4 }

def aliceInOslo : RunSettings where
  url := "http://h/v1/plans?location=Oslo"
  username := some "alice"
  options := { timeout := 7, proxy := none, header := some "plain", token := none }
  pageSize := 4
  shown := 4
  clicks := 0
  save := []
  like := []
  dislike := []
  summary := []
  refresh := false
  profile := false
  delete := []
  output := some "/home/alice/out.json"
  format := .json
  plain := false

theorem ofArguments_alice_oslo : ofArguments folder alice oslo = .ok aliceInOslo := by
  rfl

/-- Everything but the header line can stand in the command line. -/
theorem command_line_goes_first_for_alice :
    aliceInOslo.Follows folder .timeout (some (7 : Nat)) ∧ aliceInOslo.Follows folder .pageSize (some (4 : Nat)) ∧
      ofArguments folder (alice.taking oslo (· ≠ .header)) (oslo.giving alice (· ≠ .header) fun _ => false) =
        .ok aliceInOslo ∧
      ofArguments folder (alice.taking oslo fun _ => true) (oslo.giving alice (fun _ => true) fun _ => true) ≠
        .ok aliceInOslo := by
  obtain ⟨hholds, hmoved⟩ := command_line_goes_first folder alice oslo
  obtain ⟨-, -, -, hline, hfile, -⟩ := hholds aliceInOslo ofArguments_alice_oslo
  refine ⟨hline .timeout _ rfl, hfile .pageSize rfl, (hmoved _ _ _).mpr ⟨ofArguments_alice_oslo, ?_⟩, ?_⟩
  · rintro line ⟨⟩
  · intro h
    have hcolon := ((hmoved _ _ _).mp h).2 "plain" rfl
    exact absurd hcolon (by decide)

end RunSettings

end PlanBrowser

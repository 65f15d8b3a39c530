import PlanBrowser.Proofs.Html.Marks
import PlanBrowser.Proofs.Settings.Precedence
import PlanBrowser.Proofs.Text.Utf8

/-!
# What a new settings file says

A new settings file spells out how long to wait, how many plans to show at a time and at first, and that there are to be
colours.  Who has such a file has said nothing new, except in one thing: without a file as many plans are shown at first
as are shown at a time, and with the file they are five, however many the command line wants to see at a time.

* `Config.spelledOut` — a file that also says what would hold without saying;
* `Config.fresh` — the settings of a new file, and `Config.ofBytes_defaultText`, which reads them;
* `RunSettings.ofArguments_spelledOut` — **defaults that are spelled out change nothing**, in any file;
* `RunSettings.ofArguments_shown` — what is changed by saying how many plans are shown at first;
* `RunSettings.new_file_changes_first_page_only` — **what a new file changes**;
* `RunSettings.first_page_of_new_file` — a run that it does change.
-/

namespace PlanBrowser

open CommandLine (Arguments)

/-! ## Reading a new file -/

namespace Config

/-- **A file that spells out** what would hold without saying. -/
def spelledOut (c : Config) : Config :=
  { c with
    timeout := some (c.timeout.getD Options.defaultTimeout)
    pageSize := some (c.pageSize.getD Session.defaultPageSize)
    plain := some (c.plain.getD false) }

/-- **The settings of a new file.** -/
def fresh : Config :=
  { empty.spelledOut with shown := some Session.defaultPageSize }

/-- The text of a new file holds its settings. -/
theorem ofText?_defaultText : ofText? defaultText.toList = some fresh := by
  -- a text that is put together of many others is evaluated only after it is taken apart into characters
  rw [defaultText, String.toList_join, defaultLines]
  simp only [List.map_cons, List.map_nil, List.flatMap_cons, List.flatMap_nil, String.toList_append, Html.toList_literal]
  decide +kernel

/-- A file with the bytes of a text holds what the text holds. -/
theorem ofBytes_bytesOf {s : String} {c : Config} (h : ofText? s.toList = some c) (path : String) :
    ofBytes path (Text.Utf8.bytesOf s) = .ok c := by
  rw [ofBytes, Text.Utf8.bytesOf, Text.Utf8.decode?_encode]
  dsimp only
  rw [h]

/-- **A new file is read** as its settings. -/
theorem ofBytes_defaultText (path : String) : ofBytes path (Text.Utf8.bytesOf defaultText) = .ok fresh :=
  ofBytes_bytesOf ofText?_defaultText path

end Config

/-! ## What it makes of a command line -/

namespace RunSettings

variable {e : Environment} {a : Arguments} {c : Config} {r : RunSettings}

/-- **Defaults that are spelled out change nothing.** -/
theorem ofArguments_spelledOut : ofArguments e a c.spelledOut = ofArguments e a c := by
  have hlast {α : Type} (x y : Option α) (d : α) : (x <|> some (y.getD d)).getD d = (x <|> y).getD d := by
    cases x with
    | none => rfl
    | some v => rfl
  simp only [ofArguments, Config.spelledOut, hlast]
  rfl

/-- **How many plans are shown at first** is all that a file changes by saying it, and only if the command line leaves it
open. -/
theorem ofArguments_shown (n : Nat) :
    ofArguments e a { c with shown := some n } =
      (ofArguments e a c).map fun r => if a.shown = none then { r with shown := n } else r := by
  show _ = (fun r => if a.shown = none then { r with shown := n } else r) <$> ofArguments e a c
  simp only [ofArguments, map_bind, map_pure]
  cases hshown : a.shown with
  | none => rfl
  | some m => rfl

/-- A new file says how many plans are shown at first, and else what holds without it. -/
theorem ofArguments_fresh (e : Environment) (a : Arguments) :
    ofArguments e a .fresh =
      (ofArguments e a .empty).map fun r => if a.shown = none then { r with shown := Session.defaultPageSize } else r := by
  rw [Config.fresh, ofArguments_shown, ofArguments_spelledOut]

/-- With an empty file, the command line alone says how many plans are shown at a time and at first. -/
theorem shown_of_empty (h : ofArguments e a .empty = .ok r) :
    r.pageSize = a.pageSize.getD Session.defaultPageSize ∧ r.shown = a.shown.getD r.pageSize := by
  obtain ⟨-, hcomes⟩ := ofArguments_eq_ok_iff.mp h
  have hpageSize : r.pageSize = (a.pageSize <|> none).getD Session.defaultPageSize := hcomes.follows .pageSize
  have hshown : r.shown = (a.shown <|> none).getD r.pageSize := hcomes.follows .shown
  rw [Option.orElse_eq_orElse, Option.orElse_eq_or, Option.or_none] at hpageSize hshown
  exact ⟨hpageSize, hshown⟩

/-- The number of plans that a run shows at first is the one it has. -/
theorem withShown_eq_iff (n : Nat) : { r with shown := n } = r ↔ r.shown = n := by
  constructor
  · intro h
    exact (congrArg RunSettings.shown h).symm
  · rintro rfl
    rfl

/-- **What a new file changes.**  A new file is read as its settings.  A command line is refused with it exactly if it is
refused without, and for the same reason.  A run that begins is the same, except that five plans are shown at first if the
command line leaves this open, where without the file as many are shown at first as at a time.  So the file makes no
difference unless a run begins that leaves this open and does not show five plans at a time. -/
theorem new_file_changes_first_page_only (path : String) (e : Environment) (a : Arguments) :
    Config.ofBytes path (Text.Utf8.bytesOf Config.defaultText) = .ok .fresh ∧
      (∀ fault, ofArguments e a .fresh = .error fault ↔ ofArguments e a .empty = .error fault) ∧
      (∀ r, ofArguments e a .empty = .ok r →
        ofArguments e a .fresh = .ok (if a.shown = none then { r with shown := Session.defaultPageSize } else r) ∧
          (a.shown = none → r.shown = r.pageSize)) ∧
      (ofArguments e a .fresh = ofArguments e a .empty ↔
        (∃ fault, ofArguments e a .empty = .error fault) ∨ a.shown ≠ none ∨
          a.pageSize.getD Session.defaultPageSize = Session.defaultPageSize) := by
  refine ⟨Config.ofBytes_defaultText path, ?_, ?_, ?_⟩
  · intro fault
    rw [ofArguments_fresh]
    cases ofArguments e a .empty with
    | error fault' => rfl
    | ok r => exact ⟨nofun, nofun⟩
  · intro r hr
    rw [ofArguments_fresh, hr]
    refine ⟨rfl, ?_⟩
    intro hopen
    rw [(shown_of_empty hr).2, hopen]
    rfl
  · rw [ofArguments_fresh]
    cases hr : ofArguments e a .empty with
    | error fault => exact iff_of_true rfl (.inl ⟨fault, rfl⟩)
    | ok r =>
      obtain ⟨hpageSize, hshown⟩ := shown_of_empty hr
      have hbegins : ¬ ∃ fault, (Except.ok r : Except SettingsFault RunSettings) = .error fault := nofun
      rw [or_iff_right hbegins, ← hpageSize]
      show Except.ok (if a.shown = none then _ else r) = Except.ok r ↔ _
      rw [Except.ok.injEq]
      by_cases hopen : a.shown = none
      · have hsame : r.shown = r.pageSize := by rw [hshown, hopen]; rfl
        rw [if_pos hopen, withShown_eq_iff, hsame]
        exact (or_iff_right (not_not_intro hopen)).symm
      · rw [if_neg hopen]
        exact iff_of_true rfl (.inl hopen)

/-- Of three plans at a time a new file makes five at first. -/
theorem new_file_changes_first_page_only_three_at_a_time :
    let e : Environment := ⟨none, none, none, none⟩
    let a : Arguments := { Arguments.none with
      url := some "http://planner.test/v1/plans?location=Paris&date=2024-05-02&numberResults=2", pageSize := some 3 }
    ∃ r, ofArguments e a .empty = .ok r ∧ r.shown = r.pageSize ∧ ofArguments e a .fresh = .ok { r with shown := 5 } := by
  intro e a
  obtain ⟨r, hr⟩ : ∃ r, ofArguments e a .empty = .ok r := ⟨_, rfl⟩
  obtain ⟨-, -, hbegins, -⟩ := new_file_changes_first_page_only "config.yml" e a
  obtain ⟨hfile, hshown⟩ := hbegins r hr
  exact ⟨r, hr, hshown rfl, hfile⟩

/-- **A run that a new file does change**: who wants to see one plan at a time is shown one at first, and with the file
five. -/
theorem first_page_of_new_file :
    let e : Environment := ⟨none, none, none, none⟩
    let a : Arguments := { Arguments.none with
      url := some "http://planner.test/v1/plans?location=Paris&date=2024-05-02&numberResults=2", pageSize := some 1 }
    ∃ c, Config.ofBytes "config.yml" (Text.Utf8.bytesOf Config.defaultText) = .ok c ∧
      (ofArguments e a c).map (·.shown) = .ok 5 ∧ (ofArguments e a .empty).map (·.shown) = .ok 1 ∧
      ofArguments e a c ≠ ofArguments e a .empty := by
  intro e a
  have hfile : (ofArguments e a .fresh).map (·.shown) = .ok 5 := by rfl
  have hnone : (ofArguments e a .empty).map (·.shown) = .ok 1 := by rfl
  refine ⟨.fresh, Config.ofBytes_defaultText "config.yml", hfile, hnone, ?_⟩
  intro heq
  rw [heq, hnone] at hfile
  cases hfile

end RunSettings

end PlanBrowser

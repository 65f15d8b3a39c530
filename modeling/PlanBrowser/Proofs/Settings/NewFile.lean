import PlanBrowser.Proofs.Files.Way
import PlanBrowser.Proofs.Settings.Default

/-!
# What making a settings file does

A settings file is made if nothing is found at its path.  First the folders on the way to it are made, and then the path
is followed again.  Nothing that is found is lost by that, and an attempt that fails leaves some new folders at most.  But
the second time a path may lead where it did not lead the first time: back out of a folder that was missing, to a file
that was not found because of that.  This file is replaced.

* `Config.Making`, `Config.making_create` — how the making of a file goes, and that it goes so;
* `Config.grew_of_making` — an attempt that fails leaves some new folders at most;
* `Config.Made`, `Config.made_of_making` — what is there when a file is made;
* `Config.target_of_lost` — what can be lost;
* `Config.ensure_harms_target_only` — **what making a settings file does**;
* `Config.ensure_replaces_unfound_file` — a file that is lost.
-/

namespace PlanBrowser.Config

open Files (Tree Entry Place Fault)
open Files.Tree (Grew)

variable {t next : Tree} {path : String}

/-- The bytes of a new file. -/
def freshBytes : List UInt8 :=
  Text.Utf8.bytesOf defaultText

/-! ## How the making goes -/

/-- **How the making of a file goes**: its result, and the tree afterwards. -/
inductive Making (t : Tree) (path : String) : Except ConfigFault Unit → Tree → Prop
  | noFile (hparent : Files.Path.parent? path = none) : Making t path (.error (.noFile path)) t
  | noFolder (folder : String) (grown : Tree) (cause : Fault) (hparent : Files.Path.parent? path = some folder)
      (hfolders : t.makeFolders folder = (grown, .error cause)) :
      Making t path (.error (.noFolder folder cause)) grown
  | unwritable (folder : String) (grown : Tree) (cause : Fault) (hparent : Files.Path.parent? path = some folder)
      (hfolders : t.makeFolders folder = (grown, .ok ()))
      (hwrite : grown.write path freshBytes = (grown, .error cause)) :
      Making t path (.error (.unwritable path cause)) grown
  | written (folder : String) (grown next : Tree) (hparent : Files.Path.parent? path = some folder)
      (hfolders : t.makeFolders folder = (grown, .ok ()))
      (hwrite : grown.write path freshBytes = (next, .ok ())) : Making t path (.ok ()) next

theorem making_create (t : Tree) (path : String) :
    Making t path ((create path).run t).1 ((create path).run t).2 := by
  rw [create]
  split
  · next hparent => exact .noFile hparent
  · next folder hparent =>
    rw [Files.Task.run]
    cases hfolders : t.makeFolders folder with
    | mk grown made =>
      cases made with
      | error cause => exact .noFolder folder grown cause hparent hfolders
      | ok u =>
        dsimp only
        rw [Files.Task.run]
        cases hwrite : grown.write path freshBytes with
        | mk next written =>
          rw [freshBytes] at hwrite
          rw [hwrite]
          cases written with
          | error cause =>
            have hsame := Tree.write_of_error (congrArg Prod.snd hwrite)
            obtain rfl : next = grown := congrArg Prod.fst (hwrite.symm.trans hsame)
            exact .unwritable folder next cause hparent hfolders hwrite
          | ok u => exact .written folder grown next hparent hfolders hwrite

/-- An attempt that fails leaves some new folders at most. -/
theorem grew_of_making {fault : ConfigFault} (h : Making t path (.error fault) next) : Grew (t.wayTo path) t next := by
  cases h with
  | noFile hparent => exact .refl _ t
  | noFolder folder _ cause hparent hfolders => exact Tree.makeFolders_grew hparent hfolders
  | unwritable folder _ cause hparent hfolders hwrite => exact Tree.makeFolders_grew hparent hfolders

/-! ## What is made -/

/-- **A file that is made**: it can be read at its path, everything on the way to it is a folder, where there was nothing
else before, and all other places are as they were. -/
structure Made (t : Tree) (path : String) (next : Tree) : Prop where
  read : next.read path = .ok freshBytes
  target : t.target path ∉ t.wayTo path
  way : ∀ p ∈ t.wayTo path, t.at? p = none ∨ t.at? p = some .folder
  place : ∀ p, next.at? p =
    if p = t.target path then some (.file freshBytes) else if p ∈ t.wayTo path then some .folder else t.at? p

theorem made_of_making (h : Making t path (.ok ()) next) : Made t path next := by
  cases h with
  | written folder grown _ hparent hfolders hwrite =>
    have hgrew := Tree.makeFolders_grew hparent hfolders
    have hway (p : Place) (hp : p ∈ t.wayTo path) : grown.at? p = some .folder :=
      Tree.folder_of_makeFolders hparent hfolders hp
    obtain ⟨q, hfollow, hnew, -, hnext⟩ := Tree.write_eq_ok_iff.mp hwrite
    have hq : q = t.target path := by
      rw [Tree.follow_eq_target hfollow, Tree.target_of_grew hgrew]
    refine ⟨Tree.read_of_write hwrite, ?_, ?_, ?_⟩
    · exact fun hmem => hnew (hq ▸ hway _ hmem)
    · intro p hp
      obtain hsame | ⟨-, hnone, -⟩ := hgrew.place p
      · exact .inr (hsame.symm.trans (hway p hp))
      · exact .inl hnone
    · intro p
      rw [hnext, ← hq]
      by_cases heq : p = q
      · have hroot : q ≠ [] := by
          rintro rfl
          exact hnew rfl
        rw [if_pos heq, heq, Tree.at?_put_self hroot]
      · rw [if_neg heq, Tree.at?_put_of_ne heq]
        split
        · next hp => exact hway p hp
        · next hp => exact (hgrew.place p).resolve_right fun hnew => hp hnew.1

/-- **What can be lost**: the file at the place that the path names, if the path leads back. -/
theorem target_of_lost (h : Making t path (.ok ()) next) (habsent : t.holds path = false) {p : Place} {bytes : List UInt8}
    (hfile : t.at? p = some (.file bytes)) (hlost : next.at? p ≠ some (.file bytes)) :
    p = t.target path ∧ (t.IsRooted → ".." ∈ Files.Path.names path) := by
  have hmade := made_of_making h
  have htarget : p = t.target path := by
    by_contra hne
    have hplace := hmade.place p
    rw [if_neg hne] at hplace
    split at hplace
    · next hp =>
      obtain hnone | hfolder := hmade.way p hp
      · rw [hnone] at hfile
        cases hfile
      · rw [hfolder] at hfile
        cases hfile
    · exact hlost (hplace.trans hfile)
  refine ⟨htarget, fun hrooted => ?_⟩
  by_contra hback
  cases h with
  | written folder grown _ hparent hfolders hwrite =>
    have hgrew := Tree.makeFolders_grew hparent hfolders
    obtain ⟨q, hfollow, -, hslash, -⟩ := Tree.write_eq_ok_iff.mp hwrite
    have hq : q = p := by
      rw [htarget, Tree.follow_eq_target hfollow, Tree.target_of_grew hgrew]
    have hfound := Tree.holds_of_grew hrooted hgrew hback hfollow hslash (hq ▸ hfile ▸ nofun)
    rw [habsent] at hfound
    cases hfound

/-! ## Making a file unless it is there -/

/-- What is found stays. -/
theorem ensure_of_holds (h : t.holds path = true) : (ensure path).run t = (.ok (), t) := by
  rw [ensure, Files.Task.run, h]
  rfl

/-- What is not found is made. -/
theorem making_ensure (h : t.holds path = false) :
    Making t path ((ensure path).run t).1 ((ensure path).run t).2 := by
  rw [ensure, Files.Task.run, h]
  exact making_create t path

theorem holds_of_read {bytes : List UInt8} (h : t.read path = .ok bytes) : t.holds path = true := by
  rw [Tree.read] at h
  rw [Tree.holds]
  cases hfind : t.find path with
  | error fault =>
    rw [hfind] at h
    cases h
  | ok e => rfl

/-- A file that is made is read. -/
theorem load_of_made (h : Made t path next) (mayBeMissing : Bool) :
    (load path mayBeMissing).run next = (.ok fresh, next) := by
  rw [load, Files.Task.run, h.read]
  show (ofBytes path freshBytes, next) = _
  rw [freshBytes, ofBytes_defaultText]

/-- **What making a settings file does.**  If something is found at the path, nothing happens.  If the file is made, it
can be read with its own settings, the missing folders on the way to it are made with it, and no other place changes.  If
it cannot be made, some of these folders may be new, but no file is, and none has changed.  And whenever all went well, a
second time all goes well and nothing happens.  A file is lost only if another one is made in its place, which was not
found because the path leads back out of a folder that was missing. -/
theorem ensure_harms_target_only (t : Tree) (path : String) :
    let r := ((ensure path).run t).1
    let next := ((ensure path).run t).2
    (t.holds path = true → r = .ok () ∧ next = t) ∧
      (t.holds path = false → r = .ok () →
        Made t path next ∧ ∀ mayBeMissing, (load path mayBeMissing).run next = (.ok fresh, next)) ∧
      (∀ fault, r = .error fault →
        Grew (t.wayTo path) t next ∧ ∀ p bytes, next.at? p = some (.file bytes) ↔ t.at? p = some (.file bytes)) ∧
      (r = .ok () → next.holds path = true ∧ (ensure path).run next = (.ok (), next)) ∧
      ∀ p bytes, t.at? p = some (.file bytes) → next.at? p ≠ some (.file bytes) →
        r = .ok () ∧ t.holds path = false ∧ p = t.target path ∧ (t.IsRooted → ".." ∈ Files.Path.names path) := by
  intro r next
  cases hfound : t.holds path with
  | true =>
    have hrun := ensure_of_holds hfound
    have hr : r = .ok () := congrArg Prod.fst hrun
    have hnext : next = t := congrArg Prod.snd hrun
    rw [hr, hnext]
    refine ⟨fun _ => ⟨rfl, rfl⟩, nofun, nofun, fun _ => ⟨hfound, hrun⟩, ?_⟩
    exact fun p bytes hfile hlost => absurd hfile hlost
  | false =>
    have hmaking : Making t path r next := making_ensure hfound
    refine ⟨nofun, ?_, ?_, ?_, ?_⟩
    · intro _ hr
      rw [hr] at hmaking
      have hmade := made_of_making hmaking
      exact ⟨hmade, load_of_made hmade⟩
    · intro fault hr
      rw [hr] at hmaking
      have hgrew := grew_of_making hmaking
      exact ⟨hgrew, fun p bytes => hgrew.file_iff bytes⟩
    · intro hr
      rw [hr] at hmaking
      have hthere := holds_of_read (made_of_making hmaking).read
      exact ⟨hthere, ensure_of_holds hthere⟩
    · intro p bytes hfile hlost
      cases hr : r with
      | error fault =>
        rw [hr] at hmaking
        exact absurd (((grew_of_making hmaking).file_iff bytes).mpr hfile) hlost
      | ok u =>
        rw [hr] at hmaking
        exact ⟨rfl, rfl, target_of_lost hmaking hfound hfile hlost⟩

/-- **A file in a folder that is missing** is made with its folder. -/
theorem ensure_harms_target_only_missing_folder :
    let t : Tree := ⟨[(["home"], .folder)], ["home"]⟩
    let next := ((ensure "conf/config.yml").run t).2
    t.holds "conf/config.yml" = false ∧ ((ensure "conf/config.yml").run t).1 = .ok () ∧
      next.read "conf/config.yml" = .ok freshBytes ∧ next.at? ["home", "conf"] = some .folder ∧
      (load "conf/config.yml" false).run next = (.ok fresh, next) ∧ (ensure "conf/config.yml").run next = (.ok (), next) := by
  intro t next
  obtain ⟨-, hmakes, -, hagain, -⟩ := ensure_harms_target_only t "conf/config.yml"
  have habsent : t.holds "conf/config.yml" = false := by decide +kernel
  have hok : ((ensure "conf/config.yml").run t).1 = .ok () := by rfl
  obtain ⟨hmade, hload⟩ := hmakes habsent hok
  have hfolder : next.at? ["home", "conf"] = some .folder := by
    have hplace := hmade.place ["home", "conf"]
    rw [if_neg (by decide +kernel), if_pos (by decide +kernel)] at hplace
    exact hplace
  exact ⟨habsent, hok, hmade.read, hfolder, hload false, (hagain hok).2⟩

/-- **A file that is lost**: it was not found, since the path to it leads back out of a folder that was missing. -/
theorem ensure_replaces_unfound_file :
    let old := Text.Utf8.bytesOf "timeout: 3\n"
    let t : Tree := ⟨[(["b.yml"], .file old)], []⟩
    let next := ((ensure "new/../b.yml").run t).2
    t.IsRooted ∧ t.at? ["b.yml"] = some (.file old) ∧ ((ensure "new/../b.yml").run t).1 = .ok () ∧
      next.at? ["b.yml"] ≠ some (.file old) := by
  intro old t next
  have hrooted : t.IsRooted := by
    intro p n hthere
    have hname : ["b.yml"] = p ++ [n] := by
      by_contra hne
      exact hthere (by simp [Tree.at?, t, hne])
    obtain rfl : p = [] := by
      cases p with
      | nil => rfl
      | cons q qs => simp at hname
    rfl
  have hnew : next.at? ["b.yml"] = some (.file freshBytes) := by rfl
  refine ⟨hrooted, rfl, rfl, ?_⟩
  rw [hnew]
  intro heq
  have hbytes : freshBytes = old := Entry.file.inj (Option.some.inj heq)
  have hold : ofText? "timeout: 3\n".toList = some { empty with timeout := some 3 } := by decide +kernel
  have hread := ofBytes_defaultText "b.yml"
  rw [show Text.Utf8.bytesOf defaultText = old from hbytes, ofBytes_bytesOf hold] at hread
  cases hread

end PlanBrowser.Config

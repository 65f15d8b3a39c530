import Mathlib.Data.List.Induction
import PlanBrowser.Proofs.Files.Parent
import PlanBrowser.Proofs.Files.Written

/-!
# The way to a file

A path leads from folder to folder, one step at a time, and two dots lead back.  The place where it ends and the places
that are entered on the way can be told from its names alone, whatever is in the tree.  If folders are missing on the way
they are made, and nothing else happens to the tree.  So a path that led nowhere may lead somewhere afterwards, and if it
goes back out of a new folder, even to a file that was there all the time.

* `lead`, `entered` — where names lead, and which places they enter;
* `Tree.target`, `Tree.wayTo` — the same for a path, up to its last name;
* `Tree.walk_eq_lead` — a walk ends where the names lead;
* `Tree.Grew` — **some folders are new**, and nothing else is;
* `Tree.makeFolders_grew`, `Tree.folder_of_makeFolders` — making folders changes nothing else, and makes them all;
* `Tree.IsRooted`, `Tree.holds_of_grew` — if everything is in a folder, new folders open no way to an old file, unless it
  leads back.
-/

namespace PlanBrowser.Files

/-! ## Places -/

/-- **The place that names lead to**, if all places on the way are folders. -/
def lead (p : Place) (names : List String) : Place :=
  names.foldl step p

/-- **The places that names enter.** -/
def entered : Place → List String → List Place
  | _, [] => []
  | p, n :: ns =>
    if n = "." then entered p ns
    else if n = ".." then entered p.dropLast ns
    else (p ++ [n]) :: entered (p ++ [n]) ns

/-- Dots lead nowhere. -/
theorem lead_filter (p : Place) (names : List String) : lead p (names.filter (· ≠ ".")) = lead p names := by
  induction names generalizing p with
  | nil => rfl
  | cons n names ih =>
    by_cases hdot : n = "."
    · have hstep : step p n = p := if_pos hdot
      rw [List.filter_cons_of_neg (by simpa using hdot), ih]
      show _ = lead (step p n) names
      rw [hstep]
    · rw [List.filter_cons_of_pos (by simpa using hdot)]
      exact ih (step p n)

/-- Dots enter nothing. -/
theorem entered_filter (p : Place) (names : List String) : entered p (names.filter (· ≠ ".")) = entered p names := by
  induction names generalizing p with
  | nil => rfl
  | cons n names ih =>
    by_cases hdot : n = "."
    · rw [List.filter_cons_of_neg (by simpa using hdot), ih, entered, if_pos hdot]
    · rw [List.filter_cons_of_pos (by simpa using hdot), entered, entered, ih, ih, ih]

/-- Names that do not lead back lead further. -/
theorem prefix_lead {p : Place} {names : List String} (h : ".." ∉ names) : p <+: lead p names := by
  induction names generalizing p with
  | nil => exact List.prefix_rfl
  | cons n names ih =>
    rw [List.mem_cons, not_or] at h
    have hstep : p <+: step p n := by
      rw [step, if_neg (Ne.symm h.1)]
      split
      · exact List.prefix_rfl
      · exact List.prefix_append p [n]
    exact hstep.trans (ih h.2)

namespace Tree

/-- **The place that a path names.** -/
def target (t : Tree) (path : String) : Place :=
  lead (t.base path) (Path.steps path)

/-- **The folders on the way to it.** -/
def wayTo (t : Tree) (path : String) : List Place :=
  entered (t.base path) (Path.steps path).dropLast

theorem walk_eq_lead {t : Tree} {p q : Place} {names : List String} (h : t.walk p names = .ok q) : q = lead p names := by
  induction names generalizing p with
  | nil => exact (Except.ok.inj h).symm
  | cons n names ih => exact ih (walk_cons_eq_ok_iff.mp h).2.2

/-- **A path leads to its target** or nowhere. -/
theorem follow_eq_target {t : Tree} {path : String} {p : Place} (h : t.follow path = .ok p) : p = t.target path := by
  rw [target, Path.steps, lead_filter]
  exact walk_eq_lead (follow_eq_ok_iff.mp h).2

/-! ## Making folders -/

/-- **Some folders are new**: each of them is on the way, at a place where nothing was. -/
structure Grew (way : List Place) (t next : Tree) : Prop where
  here : next.here = t.here
  place (p : Place) : next.at? p = t.at? p ∨ p ∈ way ∧ t.at? p = none ∧ next.at? p = some .folder

namespace Grew

variable {way : List Place} {t next last : Tree} {p : Place}

theorem refl (way : List Place) (t : Tree) : Grew way t t :=
  ⟨rfl, fun _ => .inl rfl⟩

/-- Whatever was there stays. -/
theorem at?_of_ne_none (h : Grew way t next) (hp : t.at? p ≠ none) : next.at? p = t.at? p := by
  obtain hsame | ⟨-, hnone, -⟩ := h.place p
  · exact hsame
  · exact absurd hnone hp

/-- A file is there just if it was. -/
theorem file_iff (h : Grew way t next) (bytes : List UInt8) :
    next.at? p = some (.file bytes) ↔ t.at? p = some (.file bytes) := by
  obtain hsame | ⟨-, hnone, hfolder⟩ := h.place p
  · rw [hsame]
  · rw [hnone, hfolder]
    exact ⟨nofun, nofun⟩

theorem mono {more : List Place} (h : Grew way t next) (hway : way ⊆ more) : Grew more t next := by
  refine ⟨h.here, fun p => ?_⟩
  obtain hsame | ⟨hp, hnew⟩ := h.place p
  · exact .inl hsame
  · exact .inr ⟨hway hp, hnew⟩

/-- A folder at the beginning of the way, and then the rest. -/
theorem put (hp : t.at? p = none) (h : Grew way (t.put p .folder) last) : Grew (p :: way) t last := by
  have hroot : p ≠ [] := by
    rintro rfl
    cases hp
  have hnew : (t.put p .folder).at? p = some .folder := at?_put_self hroot t .folder
  refine ⟨h.here, fun q => ?_⟩
  by_cases heq : q = p
  · subst heq
    refine .inr ⟨List.mem_cons_self, hp, ?_⟩
    rw [h.at?_of_ne_none (hnew ▸ nofun), hnew]
  · have hplace := h.place q
    rw [at?_put_of_ne heq] at hplace
    exact hplace.imp_right fun hfolder => ⟨List.mem_cons_of_mem p hfolder.1, hfolder.2⟩

end Grew

theorem target_of_grew {way : List Place} {t next : Tree} (h : Grew way t next) (path : String) :
    next.target path = t.target path := by
  rw [target, target, base, base, h.here]

/-- What has been grown along names. -/
theorem growAlong_grew (t : Tree) (p : Place) (names : List String) :
    Grew (entered p names) t (t.growAlong p names).1 := by
  fun_induction growAlong t p names with
  | case1 t p => exact .refl _ t
  | case2 t p names ih =>
    rw [entered, if_pos rfl]
    exact ih
  | case3 t p names hdot ih =>
    rw [entered, if_neg hdot, if_pos rfl]
    exact ih
  | case4 t p n names hdot hback hfolder ih =>
    rw [entered, if_neg hdot, if_neg hback]
    exact ih.mono (List.subset_cons_self _ _)
  | case5 t p n names hdot hback bytes hfile => exact .refl _ t
  | case6 t p n names hdot hback hnone hlong => exact .refl _ t
  | case7 t p n names hdot hback hnone hlong ih =>
    rw [entered, if_neg hdot, if_neg hback]
    exact .put hnone ih

/-- If nothing is in the way, all places that are entered are folders. -/
theorem folder_of_growAlong {t : Tree} {p q : Place} {names : List String} (h : (t.growAlong p names).2 = .ok ())
    (hq : q ∈ entered p names) : (t.growAlong p names).1.at? q = some .folder := by
  fun_induction growAlong t p names with
  | case1 t p => cases hq
  | case2 t p names ih =>
    rw [entered, if_pos rfl] at hq
    exact ih h hq
  | case3 t p names hdot ih =>
    rw [entered, if_neg hdot, if_pos rfl] at hq
    exact ih h hq
  | case4 t p n names hdot hback hfolder ih =>
    rw [entered, if_neg hdot, if_neg hback] at hq
    obtain rfl | hq := List.mem_cons.mp hq
    · rw [(growAlong_grew t _ names).at?_of_ne_none (hfolder ▸ nofun), hfolder]
    · exact ih h hq
  | case5 t p n names hdot hback bytes hfile => cases h
  | case6 t p n names hdot hback hnone hlong => cases h
  | case7 t p n names hdot hback hnone hlong ih =>
    rw [entered, if_neg hdot, if_neg hback] at hq
    obtain rfl | hq := List.mem_cons.mp hq
    · have hnew : (t.put (p ++ [n]) .folder).at? (p ++ [n]) = some .folder :=
        at?_put_self (List.append_ne_nil_of_right_ne_nil p (List.cons_ne_nil n [])) t .folder
      rw [(growAlong_grew _ _ names).at?_of_ne_none (hnew ▸ nofun), hnew]
    · exact ih h hq

section

variable {t grown : Tree} {path folder : String}

theorem entered_parent? (h : Path.parent? path = some folder) :
    entered (t.base folder) (Path.names folder) = t.wayTo path := by
  rw [wayTo, ← Path.steps_parent? h, Path.steps, entered_filter]
  by_cases hempty : folder = ""
  · subst hempty
    rfl
  · rw [base, base, Path.isAbsolute_parent? h hempty]

/-- **Making the folder of a file** makes folders on the way to it, and nothing else. -/
theorem makeFolders_grew {made : Except Fault Unit} (h : Path.parent? path = some folder)
    (hfolders : t.makeFolders folder = (grown, made)) : Grew (t.wayTo path) t grown := by
  obtain rfl : (t.makeFolders folder).1 = grown := congrArg Prod.fst hfolders
  rw [← entered_parent? h, makeFolders]
  split
  · exact .refl _ t
  · split
    · exact .refl _ t
    · exact growAlong_grew t _ _

/-- If that goes well, everything on the way is a folder. -/
theorem folder_of_makeFolders (h : Path.parent? path = some folder) (hfolders : t.makeFolders folder = (grown, .ok ()))
    {p : Place} (hp : p ∈ t.wayTo path) : grown.at? p = some .folder := by
  rw [← entered_parent? h] at hp
  rw [makeFolders] at hfolders
  split at hfolders
  · next hempty =>
    obtain rfl : folder = "" := String.isEmpty_iff.mp hempty
    cases hp
  · split at hfolders
    · cases hfolders
    · have hfolder := folder_of_growAlong (congrArg Prod.snd hfolders) hp
      rwa [hfolders] at hfolder

end

/-! ## Ways to old files -/

/-- **Everything is in a folder.** -/
def IsRooted (t : Tree) : Prop :=
  ∀ p n, t.at? (p ++ [n]) ≠ none → t.at? p = some .folder

/-- There is something wherever one comes by on the way to something. -/
theorem IsRooted.ne_none {t : Tree} (h : t.IsRooted) {p more : Place} (hmore : t.at? (p ++ more) ≠ none) :
    t.at? p ≠ none := by
  induction more using List.reverseRecOn with
  | nil => rwa [List.append_nil] at hmore
  | append_singleton more n ih =>
    rw [← List.append_assoc] at hmore
    apply ih
    rw [h _ n hmore]
    exact nofun

/-- **New folders open no way to what was there**, unless it leads back. -/
theorem walk_of_grew {way : List Place} {t next : Tree} (hrooted : t.IsRooted) (hgrew : Grew way t next) {p q : Place}
    {names : List String} (hback : ".." ∉ names) (hwalk : next.walk p names = .ok q) (hq : t.at? q ≠ none) :
    t.walk p names = .ok q := by
  induction names generalizing p with
  | nil => exact hwalk
  | cons n names ih =>
    have hthere : t.at? p ≠ none := by
      obtain ⟨more, hmore⟩ := prefix_lead (p := p) hback
      rw [walk_eq_lead hwalk, ← hmore] at hq
      exact hrooted.ne_none hq
    rw [walk_cons_eq_ok_iff, hgrew.at?_of_ne_none hthere] at hwalk
    rw [walk_cons_eq_ok_iff]
    exact ⟨hwalk.1, hwalk.2.1, ih (List.not_mem_of_not_mem_cons hback) hwalk.2.2⟩

/-- So what a path leads to after all, and what was there before, was found by it before. -/
theorem holds_of_grew {way : List Place} {t next : Tree} (hrooted : t.IsRooted) (hgrew : Grew way t next)
    {path : String} {p : Place} (hback : ".." ∉ Path.names path) (hfollow : next.follow path = .ok p)
    (hslash : Path.endsInSlash path = false) (hp : t.at? p ≠ none) : t.holds path = true := by
  obtain ⟨hcheck, hwalk⟩ := follow_eq_ok_iff.mp hfollow
  have hbase : next.base path = t.base path := by rw [base, base, hgrew.here]
  rw [hbase] at hwalk
  have hthere : t.follow path = .ok p := follow_eq_ok_iff.mpr ⟨hcheck, walk_of_grew hrooted hgrew hback hwalk hp⟩
  rw [holds, find, hthere]
  cases hat : t.at? p with
  | none => exact absurd hat hp
  | some e =>
    cases e with
    | folder => simp [bind, Except.bind, hat, pure, Except.pure, Except.isOk, Except.toBool]
    | file bytes => simp [bind, Except.bind, hat, hslash, pure, Except.pure, Except.isOk, Except.toBool]

end Tree

end PlanBrowser.Files

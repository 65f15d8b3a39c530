import PlanBrowser.Files.Path

/-!
# The folder of a path

Of the names of a path, the single dots lead nowhere; the others are its **steps**.  The path without its last name has
the same steps but the last one, and begins at the same place, whatever slashes and dots stand between the names.

* `Path.steps` — the names that lead somewhere;
* `Path.parent?_cases` — how the folder of a path is made of the pieces of the path;
* `Path.steps_parent?` — **the folder has all steps but the last**;
* `Path.isAbsolute_parent?` — and begins where the path begins.
-/

namespace PlanBrowser.Files.Path

open Text (pieces joined)

/-- **The names that lead somewhere**: all but the dots. -/
def steps (path : String) : List String :=
  (names path).filter (· ≠ ".")

/-- The pieces that lead somewhere. -/
def solid (ps : List (List Char)) : List (List Char) :=
  ps.filter fun p => p ≠ [] ∧ p ≠ ['.']

theorem solid_append (ps qs : List (List Char)) : solid (ps ++ qs) = solid ps ++ solid qs :=
  List.filter_append ps qs

theorem solid_cons (p : List Char) (ps : List (List Char)) : solid (p :: ps) = solid [p] ++ solid ps :=
  solid_append [p] ps

theorem solid_singleton (p : List Char) : solid [p] = if p = [] || p = ['.'] then [] else [p] := by
  rw [solid, List.filter_cons, List.filter_nil]
  by_cases hempty : p = []
  · simp [hempty]
  · by_cases hdot : p = ['.'] <;> simp [hempty, hdot]

theorem steps_eq (path : String) : steps path = (solid (pieces '/' path.toList)).map String.ofList := by
  have hdot (p : List Char) : String.ofList p ≠ "." ↔ p ≠ ['.'] := by
    rw [Ne, ← String.toList_inj, String.toList_ofList]
    rfl
  rw [steps, names, solid, List.filter_map, List.filter_filter]
  congr 1
  apply List.filter_congr
  intro p _
  rw [Bool.eq_iff_iff]
  simp only [Function.comp_apply, Bool.and_eq_true, decide_eq_true_eq, hdot, Bool.not_eq_true',
    List.isEmpty_eq_false_iff, and_comm]

/-! ## Up to the last name -/

theorem upToLastName_cons_of_nil {p : List Char} {ps : List (List Char)} (h : upToLastName ps = []) :
    upToLastName (p :: ps) = solid [p] := by
  rw [upToLastName, h, solid_singleton]

theorem upToLastName_cons_of_ne_nil {p : List Char} {ps : List (List Char)} (h : upToLastName ps ≠ []) :
    upToLastName (p :: ps) = p :: upToLastName ps := by
  obtain ⟨q, qs, hcons⟩ := List.exists_cons_of_ne_nil h
  rw [upToLastName, hcons]

theorem solid_upToLastName (ps : List (List Char)) : solid (upToLastName ps) = solid ps := by
  induction ps with
  | nil => rfl
  | cons p ps ih =>
    by_cases hrest : upToLastName ps = []
    · have hnone : solid ps = [] := by
        rw [← ih, hrest]
        rfl
      have htwice : solid (solid [p]) = solid [p] := by
        rw [solid, solid, List.filter_filter]
        simp only [Bool.and_self]
      rw [upToLastName_cons_of_nil hrest, solid_cons p ps, hnone, List.append_nil, htwice]
    · rw [upToLastName_cons_of_ne_nil hrest, solid_cons, ih, ← solid_cons]

/-- If anything is left, it ends with a name. -/
theorem solid_ne_nil_of_upToLastName {ps : List (List Char)} (h : upToLastName ps ≠ []) : solid ps ≠ [] := by
  induction ps with
  | nil => exact absurd rfl h
  | cons p ps ih =>
    rw [solid_cons]
    by_cases hrest : upToLastName ps = []
    · rw [upToLastName_cons_of_nil hrest] at h
      exact List.append_ne_nil_of_left_ne_nil h _
    · exact List.append_ne_nil_of_right_ne_nil _ (ih hrest)

/-- So what is left without its last piece is left without its last name. -/
theorem solid_dropLast_upToLastName (ps : List (List Char)) :
    solid (upToLastName ps).dropLast = (solid ps).dropLast := by
  induction ps with
  | nil => rfl
  | cons p ps ih =>
    rw [solid_cons]
    by_cases hrest : upToLastName ps = []
    · have hnone : solid ps = [] := by
        rw [← solid_upToLastName, hrest]
        rfl
      rw [upToLastName_cons_of_nil hrest, hnone, List.append_nil, solid_singleton]
      split <;> rfl
    · rw [upToLastName_cons_of_ne_nil hrest, List.dropLast_cons_of_ne_nil hrest, solid_cons, ih,
        List.dropLast_append_of_ne_nil (solid_ne_nil_of_upToLastName hrest)]

/-! ## The folder -/

/-- **How the folder of a path is made**: either the path has but one name, or the folder is made of the pieces before
the last name, up to the last name among them. -/
theorem parent?_cases {path folder : String} (h : parent? path = some folder) :
    ∃ p ps, pieces '/' path.toList = p :: ps ∧
      (upToLastName ps = [] ∧ folder = "" ∨
        upToLastName ps ≠ [] ∧
          folder = if p :: upToLastName (upToLastName ps).dropLast = [[]] then "/"
            else String.ofList (joined ['/'] (p :: upToLastName (upToLastName ps).dropLast))) := by
  obtain ⟨p, ps, hpieces⟩ := List.exists_cons_of_ne_nil (Text.pieces_ne_nil '/' path.toList)
  refine ⟨p, ps, hpieces, ?_⟩
  rw [parent?, hpieces, trimmed] at h
  cases hup : upToLastName ps with
  | nil =>
    rw [hup] at h
    cases p with
    | nil => cases h
    | cons c cs => exact .inl ⟨rfl, (Option.some.inj h).symm⟩
  | cons q qs =>
    rw [hup] at h
    refine .inr ⟨List.cons_ne_nil q qs, ?_⟩
    cases p <;> exact (Option.some.inj h).symm

theorem mem_of_mem_upToLastName {q : List Char} {ps : List (List Char)} (h : q ∈ upToLastName ps) : q ∈ ps := by
  induction ps with
  | nil => exact h
  | cons p ps ih =>
    by_cases hrest : upToLastName ps = []
    · rw [upToLastName_cons_of_nil hrest, solid, List.mem_filter] at h
      exact List.mem_cons.mpr (.inl (List.mem_singleton.mp h.1))
    · rw [upToLastName_cons_of_ne_nil hrest] at h
      obtain rfl | h := List.mem_cons.mp h
      · exact List.mem_cons_self
      · exact List.mem_cons_of_mem p (ih h)

/-- **The folder has all steps of the path but the last.** -/
theorem steps_parent? {path folder : String} (h : parent? path = some folder) : steps folder = (steps path).dropLast := by
  obtain ⟨p, ps, hpieces, ⟨hnil, rfl⟩ | ⟨hne, hfolder⟩⟩ := parent?_cases h
  · have hnone : solid ps = [] := by
      rw [← solid_upToLastName, hnil]
      rfl
    rw [steps_eq path, hpieces, solid_cons, hnone, List.append_nil, solid_singleton]
    split <;> rfl
  · have hplain : ∀ q ∈ p :: upToLastName (upToLastName ps).dropLast, '/' ∉ q := by
      intro q hq
      have hmem : q ∈ pieces '/' path.toList := by
        rw [hpieces]
        obtain rfl | hq := List.mem_cons.mp hq
        · exact List.mem_cons_self
        · exact List.mem_cons_of_mem p (mem_of_mem_upToLastName (List.dropLast_subset _ (mem_of_mem_upToLastName hq)))
      exact Text.not_mem_of_mem_pieces hmem
    have hsteps : steps folder = (solid (p :: upToLastName (upToLastName ps).dropLast)).map String.ofList := by
      rw [hfolder]
      split
      · next hroot =>
        rw [hroot]
        decide +kernel
      · rw [steps_eq, String.toList_ofList, Text.pieces_joined (List.cons_ne_nil _ _) hplain]
    rw [hsteps, steps_eq, hpieces, solid_cons, solid_upToLastName, solid_dropLast_upToLastName, solid_cons p ps,
      ← List.map_dropLast, List.dropLast_append_of_ne_nil (solid_ne_nil_of_upToLastName hne)]

/-- Pieces with slashes between them begin at the root if there is nothing before the first slash. -/
theorem head?_joined_eq_iff {p : List Char} {ps : List (List Char)} (h : '/' ∉ p) :
    (joined ['/'] (p :: ps)).head? = some '/' ↔ p = [] ∧ ps ≠ [] := by
  cases p with
  | nil => cases ps <;> simp [joined]
  | cons c cs =>
    have hc : c ≠ '/' := fun heq => h (heq ▸ List.mem_cons_self)
    cases ps <;> simp [joined, hc]

/-- **The folder begins where the path begins**, if it is not the one that all paths begin at. -/
theorem isAbsolute_parent? {path folder : String} (h : parent? path = some folder) (hne : folder ≠ "") :
    isAbsolute folder = isAbsolute path := by
  obtain ⟨p, ps, hpieces, ⟨-, rfl⟩ | ⟨hmore, hfolder⟩⟩ := parent?_cases h
  · exact absurd rfl hne
  · have hp : '/' ∉ p := Text.not_mem_of_mem_pieces (hpieces ▸ List.mem_cons_self)
    have hps : ps ≠ [] := by
      rintro rfl
      exact hmore rfl
    have hpath : path.toList.head? = some '/' ↔ p = [] := by
      rw [← Text.joined_pieces '/' path.toList, hpieces, head?_joined_eq_iff hp]
      exact and_iff_left hps
    have hfirst : folder.toList.head? = some '/' ↔ p = [] := by
      rw [hfolder]
      split
      · next hroot => exact iff_of_true rfl (List.cons.inj hroot).1
      · next hroot =>
        rw [String.toList_ofList, head?_joined_eq_iff hp]
        refine and_iff_left_of_imp ?_
        rintro rfl hnone
        exact hroot (by rw [hnone])
    rw [isAbsolute, isAbsolute, Bool.eq_iff_iff, beq_iff_eq, beq_iff_eq, hfirst, hpath]

end PlanBrowser.Files.Path

/-!
# Cutting a text at a separator

* `pieces` — all pieces between the separators, one more than there are separators;
* `cutFirst?` — the text before and after the first separator, if there is one;
* `stripFront?` — the text after a given beginning;
* `joined` — pieces put together again with a separator between them;
* `joined_pieces`, `pieces_joined` — cutting and joining give the text back, and joining and cutting the pieces;
* `pieces_append_sep`, `cutFirst?_append_cons`, `cutFirst?_eq_some_iff` — where a text is cut;
* `not_mem_of_mem_pieces` — the pieces are without the separator.
-/

namespace PlanBrowser.Text

/-- The pieces between the occurrences of `sep`; a text without it is its own only piece. -/
def pieces (sep : Char) : List Char → List (List Char)
  | [] => [[]]
  | c :: cs =>
    if c = sep then [] :: pieces sep cs
    else
      match pieces sep cs with
      | [] => [[c]]
      | p :: ps => (c :: p) :: ps

/-- The two sides of the first occurrence of `sep`. -/
def cutFirst? (sep : Char) : List Char → Option (List Char × List Char)
  | [] => none
  | c :: cs =>
    if c = sep then some ([], cs)
    else (cutFirst? sep cs).map fun (before, after) => (c :: before, after)

/-- The rest of a text that begins with `front`. -/
def stripFront? : List Char → List Char → Option (List Char)
  | [], cs => some cs
  | _ :: _, [] => none
  | f :: fs, c :: cs => if f = c then stripFront? fs cs else none

/-- The text ends with `tail`. -/
def endsWith (tail cs : List Char) : Bool :=
  (stripFront? tail.reverse cs.reverse).isSome

/-- The pieces with `sep` between neighbours. -/
def joined (sep : List Char) : List (List Char) → List Char
  | [] => []
  | [p] => p
  | p :: q :: ps => p ++ sep ++ joined sep (q :: ps)

/-- There is at least one piece. -/
theorem pieces_ne_nil (sep : Char) (cs : List Char) : pieces sep cs ≠ [] := by
  induction cs with
  | nil => simp [pieces]
  | cons c cs _ =>
    rw [pieces]
    split
    · simp
    · split <;> simp

/-- A character in front of the first piece comes out in front. -/
theorem joined_cons_cons (sep p : List Char) (c : Char) (ps : List (List Char)) :
    joined sep ((c :: p) :: ps) = c :: joined sep (p :: ps) := by
  cases ps <;> rfl

/-- **Nothing is lost in the cut**: the pieces with the separator between them are the text. -/
theorem joined_pieces (sep : Char) (cs : List Char) : joined [sep] (pieces sep cs) = cs := by
  induction cs with
  | nil => rfl
  | cons c cs ih =>
    rw [pieces]
    split
    · next h =>
      cases hp : pieces sep cs with
      | nil => exact absurd hp (pieces_ne_nil sep cs)
      | cons p ps => rw [joined, ← hp, ih, h]; rfl
    · split
      · next hp => exact absurd hp (pieces_ne_nil sep cs)
      · next p ps hp => rw [joined_cons_cons, ← hp, ih]

/-- **A text is cut in two** at any separator. -/
theorem pieces_append_sep (sep : Char) (cs ds : List Char) :
    pieces sep (cs ++ sep :: ds) = pieces sep cs ++ pieces sep ds := by
  induction cs with
  | nil =>
    have hsep : pieces sep (sep :: ds) = [] :: pieces sep ds := by
      rw [pieces, if_pos rfl]
    exact hsep
  | cons c cs ih =>
    rw [List.cons_append, pieces, pieces, ih]
    split
    · rfl
    · obtain ⟨p, ps, hps⟩ := List.exists_cons_of_ne_nil (pieces_ne_nil sep cs)
      rw [hps]
      rfl

/-! ## Texts without the separator -/

section

variable {sep : Char} {p : List Char}

/-- The first piece ends at the first separator. -/
theorem pieces_append_cons (h : sep ∉ p) (cs : List Char) :
    pieces sep (p ++ sep :: cs) = p :: pieces sep cs := by
  induction p with
  | nil =>
    show pieces sep (sep :: cs) = _
    rw [pieces, if_pos rfl]
  | cons c p ih =>
    rw [List.mem_cons, not_or] at h
    show pieces sep (c :: (p ++ sep :: cs)) = _
    rw [pieces, if_neg (Ne.symm h.1), ih h.2]

theorem pieces_of_not_mem (h : sep ∉ p) : pieces sep p = [p] := by
  induction p with
  | nil => rfl
  | cons c p ih =>
    rw [List.mem_cons, not_or] at h
    rw [pieces, if_neg (Ne.symm h.1), ih h.2]

/-- The separator stands in none of the pieces. -/
theorem not_mem_of_mem_pieces {cs : List Char} (h : p ∈ pieces sep cs) : sep ∉ p := by
  induction cs generalizing p with
  | nil =>
    rw [List.mem_singleton.mp h]
    exact List.not_mem_nil
  | cons c cs ih =>
    rw [pieces] at h
    split at h
    · obtain rfl | h := List.mem_cons.mp h
      · exact List.not_mem_nil
      · exact ih h
    · next hne =>
      obtain ⟨q, qs, hqs⟩ := List.exists_cons_of_ne_nil (pieces_ne_nil sep cs)
      rw [hqs] at h ih
      obtain rfl | h := List.mem_cons.mp h
      · rw [List.mem_cons, not_or]
        exact ⟨Ne.symm hne, ih List.mem_cons_self⟩
      · exact ih (List.mem_cons_of_mem q h)

/-- **Pieces come apart where they were joined**, if the separator stands in none of them. -/
theorem pieces_joined {ps : List (List Char)} (hne : ps ≠ []) (h : ∀ p ∈ ps, sep ∉ p) :
    pieces sep (joined [sep] ps) = ps := by
  induction ps with
  | nil => exact absurd rfl hne
  | cons p ps ih =>
    have hp : sep ∉ p := h p List.mem_cons_self
    cases ps with
    | nil => exact pieces_of_not_mem hp
    | cons q qs =>
      have hrest := ih (List.cons_ne_nil q qs) fun r hr => h r (List.mem_cons_of_mem p hr)
      rw [joined, List.append_assoc]
      show pieces sep (p ++ sep :: joined [sep] (q :: qs)) = _
      rw [pieces_append_cons hp, hrest]

/-- **A text is cut** at the first separator. -/
theorem cutFirst?_append_cons (h : sep ∉ p) (cs : List Char) : cutFirst? sep (p ++ sep :: cs) = some (p, cs) := by
  induction p with
  | nil =>
    show cutFirst? sep (sep :: cs) = _
    rw [cutFirst?, if_pos rfl]
  | cons c p ih =>
    rw [List.mem_cons, not_or] at h
    show cutFirst? sep (c :: (p ++ sep :: cs)) = _
    rw [cutFirst?, if_neg (Ne.symm h.1), ih h.2]
    rfl

end

/-- **What is cut off at the first separator** has none of its own. -/
theorem cutFirst?_eq_some_iff {sep : Char} {cs before after : List Char} :
    cutFirst? sep cs = some (before, after) ↔ cs = before ++ sep :: after ∧ sep ∉ before := by
  constructor
  · intro h
    induction cs generalizing before with
    | nil => cases h
    | cons c cs ih =>
      rw [cutFirst?] at h
      split at h
      · next heq =>
        cases h
        exact ⟨congrArg (· :: after) heq, List.not_mem_nil⟩
      · next hne =>
        obtain ⟨⟨before', after'⟩, hcut, heq⟩ := Option.map_eq_some_iff.mp h
        cases heq
        obtain ⟨rfl, hbefore⟩ := ih hcut
        refine ⟨rfl, ?_⟩
        rw [List.mem_cons, not_or]
        exact ⟨Ne.symm hne, hbefore⟩
  · rintro ⟨rfl, h⟩
    exact cutFirst?_append_cons h after

/-- A text without the separator is not cut. -/
theorem cutFirst?_eq_none_iff {sep : Char} {cs : List Char} : cutFirst? sep cs = none ↔ sep ∉ cs := by
  constructor
  · intro h hmem
    obtain ⟨before, after, rfl, hbefore⟩ := List.eq_append_cons_of_mem hmem
    rw [cutFirst?_append_cons hbefore] at h
    cases h
  · intro h
    cases hcut : cutFirst? sep cs with
    | none => rfl
    | some cut =>
      obtain ⟨rfl, -⟩ := cutFirst?_eq_some_iff.mp (hcut : _ = some (cut.1, cut.2))
      exact absurd (List.mem_append_right _ List.mem_cons_self) h

end PlanBrowser.Text

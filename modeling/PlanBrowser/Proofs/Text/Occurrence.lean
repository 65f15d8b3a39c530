/-!
# How often a word stands in a text

* `Text.occurrences` — how often a word stands in a text;
* `Text.append_cons_prefix_iff`, `Text.not_append_cons_prefix` — where the first separator of a word must come to stand;
* `Text.occurrences_append_of_not_prefix` — what is read over if the word begins nowhere in it.
-/

namespace PlanBrowser.Text

/-- **How often a word stands in a text**, at whatever places. -/
def occurrences (word : List Char) : List Char → Nat
  | [] => 0
  | c :: cs => (if word <+: c :: cs then 1 else 0) + occurrences word cs

variable {word front front' rest rest' : List Char} {c d : Char}

/-! ## Separators -/

/-- Texts that are equal up to their first separator are equal on both sides of it. -/
theorem append_cons_prefix_iff (h : c ∉ front) (h' : c ∉ front') :
    front ++ c :: rest <+: front' ++ c :: rest' ↔ front = front' ∧ rest <+: rest' := by
  induction front generalizing front' with
  | nil =>
    cases front' with
    | nil => simp [List.cons_prefix_cons]
    | cons b bs =>
      have hb : c ≠ b := fun heq => h' (heq ▸ List.mem_cons_self)
      simp [List.cons_prefix_cons, hb]
  | cons a as ih =>
    rw [List.mem_cons, not_or] at h
    cases front' with
    | nil => simp [List.cons_prefix_cons, Ne.symm h.1]
    | cons b bs =>
      rw [List.mem_cons, not_or] at h'
      simp only [List.cons_append, List.cons_prefix_cons, ih h.2 h'.2, List.cons.injEq, and_assoc]

/-- A word does not begin in a text that has no separator and is followed by a character that the word does not have
before its own separator. -/
theorem not_append_cons_prefix (h : d ∉ front) (hne : c ≠ d) (h' : c ∉ front') :
    ¬ front ++ c :: rest <+: front' ++ d :: rest' := by
  induction front generalizing front' with
  | nil =>
    cases front' with
    | nil => simp [List.cons_prefix_cons, hne]
    | cons b bs =>
      have hb : c ≠ b := fun heq => h' (heq ▸ List.mem_cons_self)
      simp [List.cons_prefix_cons, hb]
  | cons a as ih =>
    rw [List.mem_cons, not_or] at h
    cases front' with
    | nil => simp [List.cons_prefix_cons, Ne.symm h.1]
    | cons b bs =>
      rw [List.mem_cons, not_or] at h'
      simp only [List.cons_append, List.cons_prefix_cons, ih h.2 h'.2, and_false, not_false_iff]

/-! ## Occurrences -/

theorem occurrences_cons_of_not_prefix (h : ¬ word <+: c :: rest) :
    occurrences word (c :: rest) = occurrences word rest := by
  rw [occurrences, if_neg h, Nat.zero_add]

/-- **What is read over** if the word begins nowhere in it. -/
theorem occurrences_append_of_not_prefix (h : ∀ t, t <:+ front → t ≠ [] → ¬ word <+: t ++ rest) :
    occurrences word (front ++ rest) = occurrences word rest := by
  induction front with
  | nil => rfl
  | cons c cs ih =>
    have hfirst : ¬ word <+: c :: (cs ++ rest) := h (c :: cs) (List.suffix_refl _) (List.cons_ne_nil c cs)
    rw [List.cons_append, occurrences_cons_of_not_prefix hfirst]
    exact ih fun t ht => h t (ht.trans (List.suffix_cons c cs))

end PlanBrowser.Text

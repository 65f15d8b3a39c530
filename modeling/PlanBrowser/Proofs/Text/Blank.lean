import Mathlib.Data.List.TakeWhile
import PlanBrowser.Text.Blank

/-!
# What is left of a text after trimming

Trimming takes the blanks away at both ends of a text and nothing else, so there is no blank at either end of what is
left, and nothing is left just if the text has only blanks.

* `Text.IsTidy` — **no blank at either end**;
* `Text.isTidy_trim` — a trimmed text is tidy;
* `Text.trim_eq_empty_iff` — **nothing is left of blank texts only**;
* `Text.trimChars_append_blanks`, `Text.trimChars_trimEnd`, `Text.trim_trim` — blanks that are there or not;
* `Text.exists_blanks_trimChars` — **what is trimmed away are blanks**.
-/

namespace PlanBrowser.Text

/-- **No blank at either end.** -/
def IsTidy (s : String) : Prop :=
  (∀ c, s.toList.head? = some c → isBlank c = false) ∧ ∀ c, s.toList.getLast? = some c → isBlank c = false

theorem head?_dropWhile_isBlank {cs : List Char} {c : Char} (h : (cs.dropWhile isBlank).head? = some c) :
    isBlank c = false := by
  have hnot := List.head?_dropWhile_not isBlank cs
  rw [h] at hnot
  simpa using hnot

/-- The text loses characters at its end only. -/
theorem trimEnd_prefix (cs : List Char) : trimEnd cs <+: cs := by
  have hsuffix : cs.reverse.dropWhile isBlank <:+ cs.reverse := List.dropWhile_suffix _
  rw [trimEnd, ← List.reverse_suffix, List.reverse_reverse]
  exact hsuffix

theorem trimEnd_eq_nil_iff {cs : List Char} : trimEnd cs = [] ↔ ∀ c ∈ cs, isBlank c = true := by
  rw [trimEnd, List.reverse_eq_nil_iff, List.dropWhile_eq_nil_iff]
  simp only [List.mem_reverse]

/-- **A trimmed text is tidy.** -/
theorem isTidy_trim (s : String) : IsTidy (trim s) := by
  rw [IsTidy, trim, String.toList_ofList, trimChars]
  constructor
  · intro c hc
    obtain ⟨rest, hrest⟩ := trimEnd_prefix (s.toList.dropWhile isBlank)
    have hhead : (s.toList.dropWhile isBlank).head? = some c := by
      rw [← hrest, List.head?_append, hc]
      rfl
    exact head?_dropWhile_isBlank hhead
  · intro c hc
    rw [trimEnd, List.getLast?_reverse] at hc
    exact head?_dropWhile_isBlank hc

/-- **Nothing is left of blank texts only.** -/
theorem trim_eq_empty_iff (s : String) : trim s = "" ↔ isBlankText s = true := by
  have hchars : trim s = "" ↔ trimChars s.toList = [] := by
    rw [trim, ← String.toList_inj, String.toList_ofList]
    rfl
  rw [hchars, trimChars, trimEnd_eq_nil_iff, isBlankText, List.all_eq_true]
  constructor
  · intro h c hc
    rw [← List.takeWhile_append_dropWhile (p := isBlank) (l := s.toList), List.mem_append] at hc
    obtain hc | hc := hc
    · exact List.mem_takeWhile_imp hc
    · exact h c hc
  · intro h c hc
    exact h c ((List.dropWhile_suffix _).subset hc)

/-! ## Blanks that do not matter -/

section

variable {cs blanks : List Char} {c : Char}

theorem trimEnd_append_blanks (h : ∀ b ∈ blanks, isBlank b = true) : trimEnd (cs ++ blanks) = trimEnd cs := by
  have hblanks : ∀ b ∈ blanks.reverse, isBlank b = true := fun b hb => h b (List.mem_reverse.mp hb)
  rw [trimEnd, trimEnd, List.reverse_append, List.dropWhile_append_of_pos hblanks]

/-- What stands before a character that is no blank is not trimmed at the end. -/
theorem trimEnd_append_cons (h : isBlank c = false) (ds : List Char) : trimEnd (cs ++ c :: ds) = cs ++ c :: trimEnd ds := by
  have hc : (c :: cs.reverse).dropWhile isBlank = c :: cs.reverse := by
    rw [List.dropWhile_cons, h, if_neg Bool.false_ne_true]
  have hstop : (ds.reverse ++ c :: cs.reverse).dropWhile isBlank = ds.reverse.dropWhile isBlank ++ c :: cs.reverse := by
    rw [List.dropWhile_append]
    split
    · next hempty => rw [List.isEmpty_iff.mp hempty, hc]; rfl
    · rfl
  rw [trimEnd, trimEnd, List.reverse_append, List.reverse_cons, List.append_assoc]
  show ((ds.reverse ++ c :: cs.reverse).dropWhile isBlank).reverse = _
  rw [hstop, List.reverse_append, List.reverse_cons, List.reverse_reverse, List.append_assoc]
  rfl

theorem trimChars_append_blanks (h : ∀ b ∈ blanks, isBlank b = true) : trimChars (cs ++ blanks) = trimChars cs := by
  rw [trimChars, trimChars, List.dropWhile_append]
  split
  · next hempty =>
    rw [List.isEmpty_iff.mp hempty, List.dropWhile_eq_nil_iff.mpr h]
  · exact trimEnd_append_blanks h

/-- What is trimmed away at the end are blanks. -/
theorem exists_blanks_trimEnd (cs : List Char) : ∃ after, trimEnd cs ++ after = cs ∧ ∀ b ∈ after, isBlank b = true := by
  refine ⟨(cs.reverse.takeWhile isBlank).reverse, ?_, fun b hb => List.mem_takeWhile_imp (List.mem_reverse.mp hb)⟩
  rw [trimEnd, ← List.reverse_append, List.takeWhile_append_dropWhile, List.reverse_reverse]

/-- Trimming the end first makes no difference. -/
theorem trimChars_trimEnd (cs : List Char) : trimChars (trimEnd cs) = trimChars cs := by
  obtain ⟨after, hsplit, hafter⟩ := exists_blanks_trimEnd cs
  have hmore : trimChars (trimEnd cs ++ after) = trimChars (trimEnd cs) := trimChars_append_blanks hafter
  rw [← hmore, hsplit]

theorem trimChars_blanks_append (h : ∀ b ∈ blanks, isBlank b = true) : trimChars (blanks ++ cs) = trimChars cs := by
  rw [trimChars, trimChars, List.dropWhile_append_of_pos h]

/-- **What is trimmed away are blanks**, in front and at the end. -/
theorem exists_blanks_trimChars (cs : List Char) :
    ∃ before after, cs = before ++ (trimChars cs ++ after) ∧ (∀ b ∈ before, isBlank b = true) ∧
      ∀ b ∈ after, isBlank b = true := by
  obtain ⟨after, hsplit, hafter⟩ := exists_blanks_trimEnd (cs.dropWhile isBlank)
  refine ⟨cs.takeWhile isBlank, after, ?_, fun b hb => List.mem_takeWhile_imp hb, hafter⟩
  rw [trimChars, hsplit, List.takeWhile_append_dropWhile]

theorem mem_of_mem_trimChars (h : c ∈ trimChars cs) : c ∈ cs := by
  have hend : trimEnd (cs.dropWhile isBlank) ⊆ cs.dropWhile isBlank := List.IsPrefix.subset <| trimEnd_prefix _
  exact (List.dropWhile_suffix _).subset (hend h)

theorem trim_trim (s : String) : trim (trim s) = trim s :=
  trim_eq_self (isTidy_trim s).1 (isTidy_trim s).2

theorem isBlankText_trim (s : String) : isBlankText (trim s) = isBlankText s := by
  rw [Bool.eq_iff_iff, ← trim_eq_empty_iff, ← trim_eq_empty_iff, trim_trim]

end

end PlanBrowser.Text

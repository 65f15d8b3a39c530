import PlanBrowser.Text.Blank
import PlanBrowser.Text.Numeral

/-!
# Numerals

A number is written with the fewest digits, so its text is not empty, holds digits only, stands for the number, and does
not begin with a zero unless the number is zero.  What is read as a number is any run of digits, perhaps after a plus
sign, as long as the number is below the bound of the reader.

* `Text.digits_ne_nil`, `Text.isDigit_of_mem_digits` — the text of a number is a run of digits;
* `Text.trim_written` — there are no blanks around it;
* `Text.valueOf_digits` — the number that it stands for;
* `Text.digitValue_head_ne_zero` — its first digit;
* `Text.IsNumeral` — **the numerals** of a number, and `Text.read?_eq_some_iff`: those below the bound are read.
-/

namespace PlanBrowser.Text

theorem digits_ne_nil (n : Nat) : digits n ≠ [] :=
  List.length_pos_iff.mp Nat.length_toDigits_pos

theorem isDigit_of_mem_digits {n : Nat} {c : Char} (h : c ∈ digits n) : c.isDigit = true :=
  Nat.isDigit_of_mem_toDigits (by decide) (by decide) h

/-- **The digits of a number stand for it.** -/
theorem valueOf_digits (n : Nat) : valueOf (digits n) = n :=
  Nat.ofDigitChars_toDigits (by decide) (by decide)

theorem not_mem_digits {c : Char} (h : c.isDigit = false) (n : Nat) : c ∉ digits n := by
  intro hc
  rw [isDigit_of_mem_digits hc] at h
  cases h

theorem digits_inj {m n : Nat} (h : digits m = digits n) : m = n := by
  rw [← valueOf_digits m, h, valueOf_digits]

theorem isBlank_of_isDigit {c : Char} (h : c.isDigit = true) : isBlank c = false := by
  have hrange : 48 ≤ c.toNat ∧ c.toNat ≤ 57 := Char.isDigit_iff_toNat.mp h
  simp only [isBlank, Bool.or_eq_false_iff, Bool.and_eq_false_iff, beq_eq_false_iff_ne, decide_eq_false_iff_not]
  omega

/-- The text of a number has no blanks around it. -/
theorem trim_written (n : Nat) : trim (written n) = written n := by
  have hblank : ∀ c ∈ digits n, isBlank c = false := fun c hc => isBlank_of_isDigit (isDigit_of_mem_digits hc)
  apply trim_eq_self
  · intro c hc
    rw [written, String.toList_ofList] at hc
    exact hblank c (List.mem_of_head? hc)
  · intro c hc
    rw [written, String.toList_ofList] at hc
    exact hblank c (List.mem_of_getLast? hc)

theorem digitValue_digitChar {n : Nat} (h : n < 10) : digitValue (Nat.digitChar n) = n := by
  have hall : ∀ n, n < 10 → digitValue (Nat.digitChar n) = n := by decide
  exact hall n h

/-- The first digit of a number is no zero, if there are two of them. -/
theorem digitValue_head_ne_zero {n : Nat} {c c' : Char} {cs : List Char} (h : digits n = c :: c' :: cs) :
    digitValue c ≠ 0 := by
  -- all digits but the last are those of a tenth of the number
  have hfirst : ∀ n, 0 < n → ∃ c cs, digits n = c :: cs ∧ digitValue c ≠ 0 := by
    intro n
    induction n using Nat.strongRecOn with
    | ind n ih =>
      intro hn
      by_cases hlt : n < 10
      · refine ⟨Nat.digitChar n, [], Nat.toDigits_of_lt_base hlt, ?_⟩
        rw [digitValue_digitChar hlt]
        omega
      · obtain ⟨c, cs, hcs, hc⟩ := ih (n / 10) (by omega) (by omega)
        refine ⟨c, cs ++ [Nat.digitChar (n % 10)], ?_, hc⟩
        have hsplit : digits n = digits (n / 10) ++ [Nat.digitChar (n % 10)] :=
          Nat.toDigits_of_base_le (by decide) (by omega)
        rw [hsplit, hcs, List.cons_append]
  have hn : 0 < n := by
    refine Nat.pos_of_ne_zero ?_
    rintro rfl
    cases h
  obtain ⟨d, ds, hds, hd⟩ := hfirst n hn
  rw [h] at hds
  cases hds
  exact hd

/-! ## Reading -/

/-- **A numeral** of a number: some digits, perhaps after a plus sign. -/
def IsNumeral (cs : List Char) (n : Nat) : Prop :=
  ∃ ds, ds ≠ [] ∧ (∀ d ∈ ds, d.isDigit = true) ∧ (cs = ds ∨ cs = '+' :: ds) ∧ valueOf ds = n

theorem isNumeral_digits (n : Nat) : IsNumeral (digits n) n :=
  ⟨digits n, digits_ne_nil n, fun _ => isDigit_of_mem_digits, .inl rfl, valueOf_digits n⟩

theorem unsigned_of_isDigit {ds : List Char} (h : ∀ d ∈ ds, d.isDigit = true) : unsigned ds = ds := by
  rw [unsigned]
  intro cs hcs
  have hplus := h '+' (hcs ▸ List.mem_cons_self)
  exact absurd hplus (by decide)

theorem eq_unsigned (cs : List Char) : cs = unsigned cs ∨ cs = '+' :: unsigned cs := by
  unfold unsigned
  split
  · exact .inr rfl
  · exact .inl rfl

/-- **What is read as a number**: its numerals, if it is below the bound. -/
theorem read?_eq_some_iff {bound n : Nat} {cs : List Char} : read? bound cs = some n ↔ IsNumeral cs n ∧ n < bound := by
  constructor
  · intro h
    rw [read?] at h
    split at h
    · cases h
    · next hdigits =>
      split at h
      · next hlt =>
        cases h
        simp only [Bool.or_eq_true, not_or, Bool.not_eq_true, Bool.not_eq_false', List.isEmpty_eq_false_iff,
          List.all_eq_true] at hdigits
        exact ⟨⟨unsigned cs, hdigits.1, hdigits.2, eq_unsigned cs, rfl⟩, hlt⟩
      · cases h
  · intro h
    obtain ⟨⟨ds, hne, hdigits, hcs, hvalue⟩, hlt⟩ := h
    have hunsigned : unsigned cs = ds := by
      obtain hcs | hcs := hcs
      · rw [hcs, unsigned_of_isDigit hdigits]
      · rw [hcs]
        rfl
    have hall : ds.all Char.isDigit = true := List.all_eq_true.mpr hdigits
    have hempty : ds.isEmpty = false := List.isEmpty_eq_false_iff.mpr hne
    simp [read?, hunsigned, hall, hempty, hvalue, hlt]

end PlanBrowser.Text

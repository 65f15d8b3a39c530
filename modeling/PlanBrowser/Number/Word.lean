import PlanBrowser.Text.Numeral

/-!
# Sums of words

Counts are sixty-four bit words, and so is the sum of two counts: where the words end it goes on from zero, and
nobody is told.  Such a sum is less than either of its parts.

* `sum` — the sum of two words;
* `sum_eq` — it is the sum of the numbers as long as a word holds that;
* `sum_lt`, `le_sum_iff` — and else it is less than its first part, so the two cases can be told apart.
-/

namespace PlanBrowser.Word

/-- **The sum of two words**, as a word. -/
def sum (m n : Nat) : Nat :=
  (m + n) % Text.wordBound

theorem sum_eq {m n : Nat} (h : m + n < Text.wordBound) : sum m n = m + n :=
  Nat.mod_eq_of_lt h

theorem sum_lt {m n : Nat} (hn : n < Text.wordBound) (h : Text.wordBound ≤ m + n) : sum m n < m := by
  have hbound : sum m n < Text.wordBound := Nat.mod_lt _ (by decide)
  by_cases hm : m < Text.wordBound
  · have hrest : sum m n = m + n - Text.wordBound := by
      rw [sum, Nat.mod_eq_sub_mod h, Nat.mod_eq_of_lt (by omega)]
    omega
  · omega

/-- **A sum is not less than its first part exactly if a word holds it.** -/
theorem le_sum_iff {m n : Nat} (hn : n < Text.wordBound) : m ≤ sum m n ↔ m + n < Text.wordBound := by
  constructor
  · intro hle
    refine Nat.lt_of_not_le fun hover => ?_
    exact absurd (sum_lt hn hover) (Nat.not_lt.mpr hle)
  · intro h
    rw [sum_eq h]
    exact Nat.le_add_right m n

end PlanBrowser.Word

import Mathlib.Algebra.Order.Field.Basic
import Mathlib.Data.Rat.Cast.Order
import PlanBrowser.Proofs.Json.Numeral

/-!
# Numerals and integers

A numeral stands for a rational number, and one number has many numerals: an integer can be written with a fraction of
zeros, or with an exponent.  A reader keeps only one of them as an integer, the one without a fraction, an exponent and
superfluous signs, and only if a signed word holds it; from all others it makes doubles.

* `Json.Numeral.value` — **the rational number that a numeral stands for**;
* `Json.Numeral.integer` — the plain numeral of an integer;
* `Json.Numeral.signedWord_iff` — **only the plain numeral of an integer is read as a signed word**.
-/

namespace PlanBrowser.Json

/-- The power of ten of an exponent. -/
def Exponent.power (x : Exponent) : Int :=
  if x.below then -(Text.valueOf x.digits.chars : Int) else Text.valueOf x.digits.chars

namespace Numeral

/-- What a fraction adds to the whole part. -/
def fractionValue (x : Numeral) : ℚ :=
  match x.fraction with
  | some ds => Text.valueOf ds.chars / 10 ^ ds.chars.length
  | none => 0

/-- **The rational number that a numeral stands for.** -/
def value (x : Numeral) : ℚ :=
  (if x.negative then -1 else 1) * (x.whole + x.fractionValue) * 10 ^ ((x.exponent.map Exponent.power).getD 0)

/-- **The plain numeral of an integer**: its digits, after a minus sign if it is below zero. -/
def integer (n : Int) : Numeral :=
  ⟨decide (n < 0), n.natAbs, none, none⟩

theorem value_integer (n : Int) : (integer n).value = n := by
  have hsum : (integer n).value = (if n < 0 then -1 else 1) * (n.natAbs : ℚ) := by
    simp [value, integer, fractionValue]
  have hcast : (n.natAbs : ℚ) = ((n.natAbs : Int) : ℚ) := rfl
  rw [hsum, hcast]
  split
  · next h =>
    have habs : (n.natAbs : Int) = -n := by omega
    rw [habs, Int.cast_neg, neg_one_mul, neg_neg]
  · next h =>
    have habs : (n.natAbs : Int) = n := by omega
    rw [habs, one_mul]

theorem integer_inj {n m : Int} : integer n = integer m ↔ n = m := by
  constructor
  · intro h
    have hvalue : (n : ℚ) = m := by rw [← value_integer, h, value_integer]
    exact Int.cast_inj.mp hvalue
  · rintro rfl
    rfl

end Numeral

/-! ## Signed words -/

/-- A double is no integer. -/
theorem Numeral.exists_real {x : Numeral} {n : Nat} {e : Int} {y : Number} (h : x.real n e = .ok y) :
    ∃ bits, y = .real bits := by
  rw [real] at h
  cases hexponent : x.exponent with
  | none =>
    rw [hexponent] at h
    cases hscaled : scaled? n e with
    | none =>
      simp only [hscaled] at h
      cases h
    | some d =>
      simp only [hscaled] at h
      cases h
      exact ⟨_, rfl⟩
  | some exponent =>
    simp only [hexponent, withExponent] at h
    split at h
    · split at h
      · cases h
        exact ⟨_, rfl⟩
      · cases h
    · split at h
      · cases h
        exact ⟨_, rfl⟩
      · cases h

/-- The signed word of an integer that a word holds: there is none for the negative zero. -/
theorem Number.signedWord?_ofInteger {negative : Bool} {n : Nat} (hn : n < Text.wordBound) (k : Int) :
    (ofInteger negative n).signedWord? = some k ↔
      (⟨negative, n, none, none⟩ : Numeral) = .integer k ∧ -halfWord ≤ k ∧ k < halfWord := by
  have hword : n.toUInt64.toNat = n := UInt64.toNat_ofNat_of_lt' hn
  simp only [Numeral.integer, Numeral.mk.injEq, and_true]
  cases negative with
  | false =>
    have hread : (ofInteger false n).signedWord? = if n < halfWord then some (n : Int) else none := by
      show (if n.toUInt64.toNat < halfWord then some (n.toUInt64.toNat : Int) else none) = _
      rw [hword]
    rw [hread, eq_comm (a := false), decide_eq_false_iff_not]
    split
    · simp only [Option.some.injEq]
      omega
    · simp only [reduceCtorEq, false_iff]
      omega
  | true =>
    rw [ofInteger, eq_comm (a := true), decide_eq_true_iff]
    simp only [Bool.not_true, Bool.false_eq_true, if_false]
    split
    · simp only [signedWord?, Option.some.injEq]
      omega
    · simp only [ofReal, signedWord?, reduceCtorEq, false_iff]
      omega

/-- **Only the plain numeral of an integer is read as a signed word**, if the word holds the integer. -/
theorem Numeral.signedWord_iff (x : Numeral) (k : Int) :
    (∃ n, x.number = .ok n ∧ n.signedWord? = some k) ↔ x = integer k ∧ -halfWord ≤ k ∧ k < halfWord := by
  have hplain {negative : Bool} {whole : Nat} (hwhole : whole < Text.wordBound) :
      (⟨negative, whole, none, none⟩ : Numeral).number = .ok (.ofInteger negative whole) := by
    rw [number]
    simp only [absorb_whole hwhole, and_self, if_true]
  have hreal {y : Numeral} {n : Nat} {e : Int} {m : Number} (h : y.real n e = .ok m) :
      m.signedWord? ≠ some k := by
    obtain ⟨bits, rfl⟩ := exists_real h
    exact (Option.some_ne_none k).symm
  constructor
  · rintro ⟨n, hn, hk⟩
    rw [number] at hn
    cases hfraction : x.fraction with
    | some ds =>
      rw [hfraction] at hn
      exact absurd hk (hreal hn)
    | none =>
      simp only [hfraction] at hn
      split at hn
      · next hint =>
        have hlt : x.whole < Text.wordBound :=
          valueFrom_digits x.whole ▸ Digits.lt_of_left_eq_zero (by decide) hint.1
        rw [absorb_whole hlt] at hn
        cases hn
        obtain ⟨negative, whole, fraction, exponent⟩ := x
        obtain rfl : fraction = none := hfraction
        obtain rfl : exponent = none := hint.2
        exact (Number.signedWord?_ofInteger hlt k).mp hk
      · exact absurd hk (hreal hn)
  · rintro ⟨rfl, hlow, hhigh⟩
    have hlt : k.natAbs < Text.wordBound := by
      have hhalf : halfWord + halfWord = Text.wordBound := rfl
      omega
    exact ⟨_, hplain hlt, (Number.signedWord?_ofInteger hlt k).mpr ⟨rfl, hlow, hhigh⟩⟩

end PlanBrowser.Json

import Mathlib.Algebra.Group.Nat.Defs
import PlanBrowser.Calendar.Instant
import PlanBrowser.Proofs.Text.Numeral

/-!
# Numbers of a fixed width

A number with zeros in front has as many digits as there is room for, if they are enough for it.  So a reader that knows the
width finds the number whatever follows it, and two such numbers come in the order of their texts: the first digits in which
they differ decide.

* `Text.valueOf_lt`, `Text.valueOf_cons_lt` — so many digits stand for a number below that power of ten, so the first one in
  which two numbers differ decides;
* `Text.digits_append_lt_iff` — **the order of runs of digits of one length**, with any text behind them;
* `length_padded`, `isDigit_of_mem_padded`, `valueOf_padded` — the digits of a number with zeros in front;
* `number?`, `number?_padded` — **reading a number of a fixed width**;
* `padded_append_lt_iff` — **the order of numbers of one width**.
-/

namespace PlanBrowser

namespace Text

theorem valueOf_cons (d : Char) (ds : List Char) : valueOf (d :: ds) = 10 ^ ds.length * digitValue d + valueOf ds := by
  have hcons : valueOf (d :: ds) = Nat.ofDigitChars 10 ds (10 * 0 + digitValue d) := Nat.ofDigitChars_cons
  rw [hcons, Nat.mul_zero, Nat.zero_add]
  exact Nat.ofDigitChars_eq_ofDigitChars_zero

section

variable {d e : Char} {ds es : List Char}

theorem toNat_eq_of_isDigit (h : d.isDigit = true) : d.toNat = 48 + digitValue d ∧ digitValue d < 10 := by
  have hrange : 48 ≤ d.toNat ∧ d.toNat ≤ 57 := Char.isDigit_iff_toNat.mp h
  have hvalue : digitValue d = d.toNat - 48 := rfl
  omega

theorem digit_lt_iff (hd : d.isDigit = true) (he : e.isDigit = true) : d < e ↔ digitValue d < digitValue e := by
  obtain ⟨hleft, -⟩ := toNat_eq_of_isDigit hd
  obtain ⟨hright, -⟩ := toNat_eq_of_isDigit he
  show d.toNat < e.toNat ↔ _
  omega

theorem digit_eq_iff (hd : d.isDigit = true) (he : e.isDigit = true) : d = e ↔ digitValue d = digitValue e := by
  obtain ⟨hleft, -⟩ := toNat_eq_of_isDigit hd
  obtain ⟨hright, -⟩ := toNat_eq_of_isDigit he
  rw [← Char.toNat_inj]
  omega

/-- What is behind the first digit is less than one of its units. -/
theorem valueOf_cons_lt_of (h : valueOf ds < 10 ^ ds.length) : valueOf (d :: ds) < 10 ^ ds.length * (digitValue d + 1) := by
  rw [valueOf_cons, Nat.mul_succ]
  exact Nat.add_lt_add_left h _

/-- So many digits stand for a number below that power of ten. -/
theorem valueOf_lt (h : ∀ d ∈ ds, d.isDigit = true) : valueOf ds < 10 ^ ds.length := by
  induction ds with
  | nil => exact Nat.one_pos
  | cons d ds ih =>
    obtain ⟨hd, hds⟩ := List.forall_mem_cons.mp h
    calc valueOf (d :: ds)
        < 10 ^ ds.length * (digitValue d + 1) := valueOf_cons_lt_of (ih hds)
      _ ≤ 10 ^ ds.length * 10 := Nat.mul_le_mul_left _ (toNat_eq_of_isDigit hd).2

/-- The first digit decides. -/
theorem valueOf_cons_lt (h : digitValue d < digitValue e) (hlen : ds.length = es.length) (hds : ∀ c ∈ ds, c.isDigit = true) :
    valueOf (d :: ds) < valueOf (e :: es) :=
  calc valueOf (d :: ds)
      < 10 ^ ds.length * (digitValue d + 1) := valueOf_cons_lt_of (valueOf_lt hds)
    _ ≤ 10 ^ ds.length * digitValue e := Nat.mul_le_mul_left _ h
    _ ≤ 10 ^ ds.length * digitValue e + valueOf es := Nat.le_add_right _ _
    _ = valueOf (e :: es) := by rw [valueOf_cons, hlen]

/-- **The order of runs of digits of one length**, with any text behind them, is that of their numbers. -/
theorem digits_append_lt_iff {as bs : List Char} (hlen : ds.length = es.length) (hds : ∀ d ∈ ds, d.isDigit = true)
    (hes : ∀ e ∈ es, e.isDigit = true) :
    ds ++ as < es ++ bs ↔ valueOf ds < valueOf es ∨ valueOf ds = valueOf es ∧ as < bs := by
  induction ds generalizing es with
  | nil =>
    obtain rfl := List.eq_nil_of_length_eq_zero hlen.symm
    simp
  | cons d ds ih =>
    obtain ⟨e, es, rfl⟩ := List.exists_cons_of_length_eq_add_one hlen.symm
    obtain ⟨hd, hds⟩ := List.forall_mem_cons.mp hds
    obtain ⟨he, hes⟩ := List.forall_mem_cons.mp hes
    have hlen : ds.length = es.length := Nat.succ.inj hlen
    rw [List.cons_append, List.cons_append, List.cons_lt_cons_iff, digit_lt_iff hd he, digit_eq_iff hd he, ih hlen hds hes]
    rcases Nat.lt_trichotomy (digitValue d) (digitValue e) with hlt | heq | hgt
    · exact iff_of_true (.inl hlt) (.inl (valueOf_cons_lt hlt hlen hds))
    · rw [valueOf_cons, valueOf_cons, heq, hlen]
      simp
    · have hmore : valueOf (e :: es) < valueOf (d :: ds) := valueOf_cons_lt hgt hlen.symm hes
      refine iff_of_false ?_ ?_
      · omega
      · rintro (hless | ⟨hsame, -⟩) <;> omega

end

end Text

namespace Calendar

open Text

/-- **Reading a number** of so many digits, and what follows it. -/
def number? (width : Nat) (cs : List Char) : Option (Nat × List Char) :=
  if (cs.take width).length = width ∧ (cs.take width).all Char.isDigit = true then
    some (valueOf (cs.take width), cs.drop width)
  else none

section

variable {width n : Nat}

theorem isDigit_of_mem_padded {c : Char} (h : c ∈ padded width n) : c.isDigit = true := by
  rcases List.mem_append.mp h with hzero | hdigit
  · rw [List.eq_of_mem_replicate hzero]
    rfl
  · exact isDigit_of_mem_digits hdigit

/-- Zeros in front change nothing. -/
theorem valueOf_padded (width n : Nat) : valueOf (padded width n) = n := by
  have happend : valueOf (padded width n) =
      Nat.ofDigitChars 10 (digits n) (Nat.ofDigitChars 10 (List.replicate (width - (digits n).length) '0') 0) :=
    Nat.ofDigitChars_append 0
  rw [happend, Nat.ofDigitChars_replicate_zero, Nat.mul_zero]
  exact valueOf_digits n

/-- There is room for a number below that power of ten. -/
theorem length_padded (hpos : 0 < width) (h : n < 10 ^ width) : (padded width n).length = width := by
  have hle : (digits n).length ≤ width := (Nat.length_toDigits_le_iff (by decide) hpos).mpr h
  rw [padded, List.length_append, List.length_replicate, Nat.sub_add_cancel hle]

/-- **A number of a fixed width is read back**, whatever follows it. -/
theorem number?_padded (hpos : 0 < width) (h : n < 10 ^ width) (rest : List Char) :
    number? width (padded width n ++ rest) = some (n, rest) := by
  have hlen := length_padded hpos h
  have htake : (padded width n ++ rest).take width = padded width n := List.take_left' hlen
  have hdrop : (padded width n ++ rest).drop width = rest := List.drop_left' hlen
  have hdigits : (padded width n).all Char.isDigit = true := List.all_eq_true.mpr fun _ => isDigit_of_mem_padded
  rw [number?, htake, hdrop, if_pos ⟨hlen, hdigits⟩, valueOf_padded]

/-- **The order of numbers of one width**, with any text behind them. -/
theorem padded_append_lt_iff {m : Nat} {as bs : List Char} (hpos : 0 < width) (hm : m < 10 ^ width) (hn : n < 10 ^ width) :
    padded width m ++ as < padded width n ++ bs ↔ m < n ∨ m = n ∧ as < bs := by
  have hlen : (padded width m).length = (padded width n).length := by rw [length_padded hpos hm, length_padded hpos hn]
  rw [digits_append_lt_iff hlen (fun _ => isDigit_of_mem_padded) (fun _ => isDigit_of_mem_padded), valueOf_padded, valueOf_padded]

end

end Calendar

end PlanBrowser

import PlanBrowser.Json.Numeral
import PlanBrowser.Json.Write
import PlanBrowser.Proofs.Text.Numeral

/-!
# Numerals

A numeral stands for an integer, as long as a word holds it, or for a double.  It is read digit by digit, and the reader
goes on while there is something that could belong to a number, so what follows must not look like it.  Where nobody looks
at a numeral it is passed over, and then it may stand for a number beyond every double.

* `Json.Numeral`, with `Json.Numeral.number` — a numeral, and the number that it stands for;
* `Json.EndsNumber` — no number goes on here;
* `Json.digitRun_append` — the digits at the front of a source are taken, all of them and no more;
* `Json.finishReal_exponent`, `Json.readNumber_numeral`, `Json.skipNumber_numeral` — **a numeral is read**, or passed over;
* `Json.Digits.absorb_of_lt` — digits are taken up as long as a word holds the number;
* `Json.Numeral.number_eq_natural_iff` — only a plain unsigned integer that a word holds is read as a natural number.
-/

namespace PlanBrowser.Json

/-- One or more digits. -/
structure DigitRun where
  chars : List Char
  chars_ne_nil : chars ≠ []
  isDigit_of_mem : ∀ c ∈ chars, c.isDigit = true

/-- The values of the digits. -/
def DigitRun.values (ds : DigitRun) : List Nat :=
  ds.chars.map Text.digitValue

/-- The exponent of a numeral. -/
structure Exponent where
  mark : Char
  mark_eq : mark = 'e' ∨ mark = 'E'
  /-- The sign, if one is written; `true` for minus. -/
  sign : Option Bool
  digits : DigitRun

/-- The sign of an exponent, written. -/
def Exponent.signText (x : Exponent) : List Char :=
  match x.sign with
  | none => []
  | some false => ['+']
  | some true => ['-']

/-- The exponent is below zero. -/
def Exponent.below (x : Exponent) : Bool :=
  x.sign.getD false

/-- **A numeral** of JSON.  Its whole part has no superfluous zeros. -/
structure Numeral where
  negative : Bool
  whole : Nat
  fraction : Option DigitRun
  exponent : Option Exponent

namespace Numeral

/-- A plain unsigned integer. -/
def plain (n : Nat) : Numeral :=
  ⟨false, n, none, none⟩

/-- The fraction, written. -/
def fractionText (x : Numeral) : List Char :=
  match x.fraction with
  | none => []
  | some ds => '.' :: ds.chars

/-- The exponent, written. -/
def exponentText (x : Numeral) : List Char :=
  match x.exponent with
  | none => []
  | some e => e.mark :: (e.signText ++ e.digits.chars)

/-- The numeral without its sign. -/
def unsigned (x : Numeral) : List Char :=
  Text.digits x.whole ++ (x.fractionText ++ x.exponentText)

/-- The text of a numeral. -/
def text (x : Numeral) : List Char :=
  if x.negative then '-' :: x.unsigned else x.unsigned

/-- The double of digits with a power of ten, and with an exponent if there is one. -/
def real (x : Numeral) (n : Nat) (e : Int) : Except Fault Number :=
  match x.exponent with
  | some exponent => withExponent x.negative n e exponent.below exponent.digits.values
  | none =>
    match scaled? n e with
    | some d => .ok (.ofReal x.negative d)
    | none => .error .grammar

/-- **The number that a numeral stands for**: an integer that a word holds, if it has neither a fraction nor an exponent,
and else a double, unless it exceeds every double. -/
def number (x : Numeral) : Except Fault Number :=
  let whole := Digits.absorb ⟨0, 0, 0⟩ ((Text.digits x.whole).map Text.digitValue)
  match x.fraction with
  | some ds =>
    let all := Digits.absorb ⟨whole.value, 0, 0⟩ ds.values
    x.real all.value ((whole.left : Int) - all.taken)
  | none =>
    if whole.left = 0 ∧ x.exponent = none then .ok (.ofInteger x.negative whole.value)
    else x.real whole.value whole.left

end Numeral

/-! ## Digits -/

/-- **No number goes on here**: the source begins with no digit, point or exponent. -/
def EndsNumber : Source → Prop
  | some c :: _ => c.isDigit = false ∧ c ≠ '.' ∧ c ≠ 'e' ∧ c ≠ 'E'
  | _ => True

theorem EndsNumber.digit?_eq_none {x : Option Char} {rest : Source} (h : EndsNumber (x :: rest)) :
    digit? x = none := by
  cases x with
  | none => rfl
  | some c =>
    have hc : ¬ c.isDigit = true := by simp [h.1]
    rw [digit?, if_neg hc]

theorem EndsNumber.digitRun_eq {rest : Source} (h : EndsNumber rest) : digitRun rest = ([], rest) := by
  cases rest with
  | nil => rfl
  | cons x rest => rw [digitRun, h.digit?_eq_none]

/-- **The digits at the front of a source**, up to where no digit stands. -/
theorem digitRun_append_of {cs : List Char} (hcs : ∀ c ∈ cs, c.isDigit = true) {rest : Source}
    (hrest : digitRun rest = ([], rest)) :
    digitRun (cs.map some ++ rest) = (cs.map Text.digitValue, rest) := by
  induction cs with
  | nil => exact hrest
  | cons c cs ih =>
    have hc : digit? (some c) = some (Text.digitValue c) := by
      rw [digit?, if_pos (hcs c List.mem_cons_self)]
      rfl
    rw [List.map_cons, List.cons_append, digitRun, hc, ih fun c' hc' => hcs c' (List.mem_cons_of_mem c hc')]
    rfl

/-- **The digits at the front of a source**, up to where no number goes on. -/
theorem digitRun_append {cs : List Char} (hcs : ∀ c ∈ cs, c.isDigit = true) {rest : Source}
    (hrest : EndsNumber rest) : digitRun (cs.map some ++ rest) = (cs.map Text.digitValue, rest) :=
  digitRun_append_of hcs hrest.digitRun_eq

theorem ne_of_isDigit {c d : Char} (hc : c.isDigit = true) (hd : d.isDigit = false) : c ≠ d := by
  rintro rfl
  rw [hc] at hd
  cases hd

/-- A numeral without a sign begins with a digit. -/
theorem Numeral.text_eq_cons {x : Numeral} (h : x.negative = false) :
    ∃ c cs, c.isDigit = true ∧ x.unsigned = c :: cs ∧ x.text = c :: cs := by
  obtain ⟨c, cs, hcs⟩ := List.exists_cons_of_ne_nil (Text.digits_ne_nil x.whole)
  have hunsigned : x.unsigned = c :: (cs ++ (x.fractionText ++ x.exponentText)) := by
    rw [unsigned, hcs]
    rfl
  refine ⟨c, _, Text.isDigit_of_mem_digits (hcs ▸ List.mem_cons_self), hunsigned, ?_⟩
  rw [text, h, hunsigned]
  rfl

/-! ## Reading -/

/-- After the digits of an exponent the source goes on. -/
theorem exponentRun_exponent (x : Exponent) {rest : Source} (hrest : EndsNumber rest) :
    exponentRun ((x.signText ++ x.digits.chars).map some ++ rest) = .ok (x.below, x.digits.values, rest) := by
  have hrun : digitRun (x.digits.chars.map some ++ rest) = (x.digits.values, rest) :=
    digitRun_append x.digits.isDigit_of_mem hrest
  obtain ⟨c, cs, hcs⟩ := List.exists_cons_of_ne_nil x.digits.chars_ne_nil
  have hc : c.isDigit = true := x.digits.isDigit_of_mem c (hcs ▸ List.mem_cons_self)
  have hvalues : x.digits.values = Text.digitValue c :: cs.map Text.digitValue := by
    rw [DigitRun.values, hcs]
    rfl
  rw [hvalues] at hrun ⊢
  unfold exponentRun
  cases hsign : x.sign with
  | none =>
    have hplus : c ≠ '+' := ne_of_isDigit hc rfl
    have hminus : c ≠ '-' := ne_of_isDigit hc rfl
    have hbelow : x.below = false := by rw [Exponent.below, hsign]; rfl
    rw [Exponent.signText, hsign, List.nil_append, hbelow]
    rw [hcs, List.map_cons, List.cons_append] at hrun ⊢
    simp [hplus, hminus, hrun]
  | some below =>
    have hbelow : x.below = below := by rw [Exponent.below, hsign]; rfl
    rw [Exponent.signText, hsign, hbelow]
    cases below <;> simp [hrun]

/-- What may follow the digits of a number is read as what the numeral says. -/
theorem finishReal_exponent (x : Numeral) (n : Nat) (e : Int) {rest : Source} (hrest : EndsNumber rest) :
    finishReal x.negative n e (x.exponentText.map some ++ rest) = (x.real n e).map (·, rest) := by
  rw [Numeral.exponentText, Numeral.real]
  cases x.exponent with
  | none =>
    show finishReal x.negative n e rest = _
    unfold finishReal
    split
    · exact absurd rfl hrest.2.2.1
    · exact absurd rfl hrest.2.2.2
    · cases scaled? n e <;> rfl
  | some exponent =>
    show finishReal x.negative n e
      (some exponent.mark :: ((exponent.signText ++ exponent.digits.chars).map some ++ rest)) = _
    unfold finishReal
    rcases exponent.mark_eq with hmark | hmark <;> rw [hmark] <;>
      simp only [exponentRun_exponent exponent hrest, bind, Except.bind] <;>
      cases withExponent x.negative n e exponent.below exponent.digits.values <;> rfl

/-- The values of the digits of the whole part. -/
theorem wholeDigits_ne_nil (x : Numeral) : (Text.digits x.whole).map Text.digitValue ≠ [] :=
  fun h => Text.digits_ne_nil x.whole (List.map_eq_nil_iff.mp h)

/-- The whole part has no superfluous zeros. -/
theorem wholeDigits_ne_zero_cons (x : Numeral) (d : Nat) (ds : List Nat) :
    (Text.digits x.whole).map Text.digitValue ≠ 0 :: d :: ds := by
  intro h
  obtain ⟨c, cs, hcs, hc, htail⟩ := List.map_eq_cons_iff.mp h
  obtain ⟨c', cs', rfl, -, -⟩ := List.map_eq_cons_iff.mp htail
  exact Text.digitValue_head_ne_zero hcs hc

/-- The digits of a run end where no number goes on. -/
theorem digitRun_exponentText (x : Numeral) {rest : Source} (hrest : EndsNumber rest) :
    digitRun (x.exponentText.map some ++ rest) = ([], x.exponentText.map some ++ rest) := by
  rw [Numeral.exponentText]
  cases x.exponent with
  | none => exact hrest.digitRun_eq
  | some exponent => rcases exponent.mark_eq with hmark | hmark <;> simp [hmark, digitRun, digit?]

/-- The whole part ends where the fraction begins, the exponent, or what follows the number. -/
theorem digitRun_unsigned (x : Numeral) {rest : Source} (hrest : EndsNumber rest) :
    digitRun (x.unsigned.map some ++ rest) =
      ((Text.digits x.whole).map Text.digitValue, x.fractionText.map some ++ (x.exponentText.map some ++ rest)) := by
  rw [Numeral.unsigned, List.map_append, List.map_append, List.append_assoc, List.append_assoc]
  refine digitRun_append_of (fun c => Text.isDigit_of_mem_digits) ?_
  rw [Numeral.fractionText]
  cases x.fraction with
  | none => exact digitRun_exponentText x hrest
  | some ds => simp [digitRun, digit?]

theorem fractionRun_append (ds : DigitRun) (x : Numeral) {rest : Source} (hrest : EndsNumber rest) :
    fractionRun (ds.chars.map some ++ (x.exponentText.map some ++ rest)) =
      .ok (ds.values, x.exponentText.map some ++ rest) := by
  have hrun : digitRun (ds.chars.map some ++ (x.exponentText.map some ++ rest)) =
      (ds.values, x.exponentText.map some ++ rest) :=
    digitRun_append_of ds.isDigit_of_mem (digitRun_exponentText x hrest)
  have hne : ds.values ≠ [] := fun h => ds.chars_ne_nil (List.map_eq_nil_iff.mp h)
  rw [fractionRun, hrun]
  split
  · next h => exact absurd (congrArg Prod.fst h) hne
  · next h => exact absurd (congrArg Prod.fst h) hne
  · rfl

/-- **A numeral is read as the number that it stands for**, after its sign and up to where no number goes on. -/
theorem readNumber_numeral (x : Numeral) {rest : Source} (hrest : EndsNumber rest) :
    readNumber x.negative (x.unsigned.map some ++ rest) = x.number.map (·, rest) := by
  rw [readNumber, digitRun_unsigned x hrest]
  split
  · next h => exact absurd (congrArg Prod.fst h) (wholeDigits_ne_nil x)
  · next h => exact absurd (congrArg Prod.fst h) (wholeDigits_ne_nil x)
  · next d ds _ h => exact absurd (congrArg Prod.fst h) (wholeDigits_ne_zero_cons x d ds)
  · next h =>
    obtain ⟨rfl, rfl⟩ := Prod.mk.inj h
    rw [Numeral.number, Numeral.fractionText]
    cases hfraction : x.fraction with
    | some ds =>
      simp only [List.map_cons, List.cons_append, fractionRun_append ds x hrest, bind, Except.bind]
      exact finishReal_exponent x _ _ hrest
    | none =>
      have hfinish := finishReal_exponent x
        (Digits.absorb ⟨0, 0, 0⟩ ((Text.digits x.whole).map Text.digitValue)).value
        (Digits.absorb ⟨0, 0, 0⟩ ((Text.digits x.whole).map Text.digitValue)).left hrest
      simp only [List.map_nil, List.nil_append]
      cases hexponent : x.exponent with
      | some exponent =>
        rw [Numeral.exponentText, hexponent] at hfinish ⊢
        rcases exponent.mark_eq with hmark | hmark <;>
          simpa [hmark] using hfinish
      | none =>
        rw [Numeral.exponentText, hexponent] at hfinish ⊢
        simp only [List.map_nil, List.nil_append] at hfinish ⊢
        split
        · exact absurd rfl hrest.2.1
        · exact absurd rfl hrest.2.2.1
        · exact absurd rfl hrest.2.2.2
        · split
          · next hleft => simp [hleft, pure, Except.pure, Except.map]
          · next hleft => simpa [hleft] using hfinish

/-- An exponent that nobody looks at is passed over. -/
theorem skipExponent_exponent (x : Numeral) {rest : Source} (hrest : EndsNumber rest) :
    skipExponent (x.exponentText.map some ++ rest) = .ok rest := by
  rw [Numeral.exponentText]
  cases x.exponent with
  | none =>
    show skipExponent rest = _
    unfold skipExponent
    split
    · exact absurd rfl hrest.2.2.1
    · exact absurd rfl hrest.2.2.2
    · rfl
  | some exponent =>
    show skipExponent (some exponent.mark :: ((exponent.signText ++ exponent.digits.chars).map some ++ rest)) = _
    rcases exponent.mark_eq with hmark | hmark <;> rw [hmark, skipExponent, exponentRun_exponent exponent hrest]

/-- **A numeral that nobody looks at is passed over**, after its sign. -/
theorem skipNumber_numeral (x : Numeral) {rest : Source} (hrest : EndsNumber rest) :
    skipNumber (x.unsigned.map some ++ rest) = .ok rest := by
  have hexponent := skipExponent_exponent x hrest
  have hrun := digitRun_unsigned x hrest
  rw [Numeral.fractionText] at hrun
  cases hfraction : x.fraction with
  | some ds =>
    simp only [hfraction, List.map_cons, List.cons_append] at hrun
    have hfractionRun : digitRun (ds.chars.map some ++ (x.exponentText.map some ++ rest)) =
        (ds.values, x.exponentText.map some ++ rest) :=
      digitRun_append_of ds.isDigit_of_mem (digitRun_exponentText x hrest)
    have hne : ds.values ≠ [] := fun h => ds.chars_ne_nil (List.map_eq_nil_iff.mp h)
    rw [skipNumber, hrun]
    split
    · next h => exact absurd (congrArg Prod.fst h) (wholeDigits_ne_nil x)
    · next d ds _ h => exact absurd (congrArg Prod.fst h) (wholeDigits_ne_zero_cons x d ds)
    · next h =>
      rw [← (List.cons.inj (Prod.mk.inj h).2).2, hfractionRun]
      split
      · next h => exact absurd (congrArg Prod.fst h) hne
      · next h => exact (Prod.mk.inj h).2 ▸ hexponent
    · next hpoint h => exact absurd (Prod.mk.inj h).2.symm (hpoint _)
  | none =>
    simp only [hfraction, List.map_nil, List.nil_append] at hrun
    have hpoint (src : Source) : x.exponentText.map some ++ rest ≠ some '.' :: src := by
      rw [Numeral.exponentText]
      cases x.exponent with
      | none =>
        intro h
        exact (show EndsNumber (some '.' :: src) from h ▸ hrest).2.1 rfl
      | some exponent => rcases exponent.mark_eq with hmark | hmark <;> simp [hmark]
    rw [skipNumber, hrun]
    split
    · next h => exact absurd (congrArg Prod.fst h) (wholeDigits_ne_nil x)
    · next d ds _ h => exact absurd (congrArg Prod.fst h) (wholeDigits_ne_zero_cons x d ds)
    · next h => exact absurd (Prod.mk.inj h).2 (hpoint _)
    · next h => exact (Prod.mk.inj h).2 ▸ hexponent

/-! ## Integers -/

/-- The integer that some digits stand for, after those of another one. -/
def valueFrom (n : Nat) (ds : List Nat) : Nat :=
  ds.foldl (fun n d => n * 10 + d) n

theorem le_valueFrom (n : Nat) (ds : List Nat) : n ≤ valueFrom n ds := by
  induction ds generalizing n with
  | nil => exact Nat.le_refl n
  | cons d ds ih =>
    have hrest := ih (n * 10 + d)
    show n ≤ valueFrom (n * 10 + d) ds
    omega

theorem valueFrom_digits (n : Nat) : valueFrom 0 ((Text.digits n).map Text.digitValue) = n := by
  have hstep : (fun (n : Nat) (c : Char) => n * 10 + Text.digitValue c) =
      fun n c => 10 * n + Text.digitValue c := by
    funext n c
    rw [Nat.mul_comm]
  rw [valueFrom, List.foldl_map, hstep]
  exact Text.valueOf_digits n

/-- **Digits are taken up as long as a word holds the number.** -/
theorem Digits.absorb_of_lt {n taken : Nat} {ds : List Nat} (h : valueFrom n ds < Text.wordBound) :
    Digits.absorb ⟨n, 0, taken⟩ ds = ⟨valueFrom n ds, 0, taken + ds.length⟩ := by
  induction ds generalizing n taken with
  | nil => rfl
  | cons d ds ih =>
    have hle : n * 10 + d ≤ valueFrom (n * 10 + d) ds := le_valueFrom _ _
    have hrest : valueFrom (n * 10 + d) ds < Text.wordBound := h
    have hfits : n * 10 + d < Text.wordBound := Nat.lt_of_le_of_lt hle hrest
    have hroom : ((0 : Nat) = 0 && decide (n * 10 + d < Text.wordBound)) = true := by
      rw [decide_eq_true hfits]
      rfl
    rw [Digits.absorb, if_pos hroom, ih hrest, List.length_cons]
    show (⟨_, 0, taken + 1 + ds.length⟩ : Digits) = ⟨_, 0, taken + (ds.length + 1)⟩
    rw [Nat.add_assoc, Nat.add_comm 1]
    rfl

theorem Number.ofInteger_natural (n : UInt64) : Number.ofInteger false n.toNat = .natural n :=
  congrArg Number.natural UInt64.ofNat_toNat

theorem Number.ofInteger_belowZero (k : Fin halfWord) : Number.ofInteger true (k.val + 1) = .belowZero k := by
  have hk : 0 < k.val + 1 ∧ k.val + 1 ≤ halfWord := ⟨by omega, k.isLt⟩
  simp only [Number.ofInteger, Bool.not_true, Bool.false_eq_true, if_false, dif_pos hk]
  rfl

/-- Once the word is full no digit is taken up any more. -/
theorem Digits.le_left_absorb (st : Digits) (ds : List Nat) : st.left ≤ (Digits.absorb st ds).left := by
  induction ds generalizing st with
  | nil => exact Nat.le_refl _
  | cons d ds ih =>
    rw [Digits.absorb]
    split
    · exact ih { st with value := st.value * 10 + d, taken := st.taken + 1 }
    · exact Nat.le_trans (Nat.le_succ _) (ih { st with left := st.left + 1 })

/-- Digits are all taken up only if a word holds the number. -/
theorem Digits.lt_of_left_eq_zero {n taken : Nat} {ds : List Nat} (hn : n < Text.wordBound)
    (h : (Digits.absorb ⟨n, 0, taken⟩ ds).left = 0) : valueFrom n ds < Text.wordBound := by
  induction ds generalizing n taken with
  | nil => exact hn
  | cons d ds ih =>
    rw [Digits.absorb] at h
    split at h
    · next hroom =>
      simp only [Bool.and_eq_true, decide_eq_true_eq] at hroom
      exact ih hroom.2 h
    · have hle := Digits.le_left_absorb ⟨n, 0 + 1, taken⟩ ds
      rw [h] at hle
      exact absurd hle (by simp)

/-- The number of a numeral whose whole part a word holds. -/
theorem absorb_whole {n : Nat} (h : n < Text.wordBound) :
    Digits.absorb ⟨0, 0, 0⟩ ((Text.digits n).map Text.digitValue) =
      ⟨n, 0, 0 + ((Text.digits n).map Text.digitValue).length⟩ := by
  have hvalue := valueFrom_digits n
  rw [Digits.absorb_of_lt (hvalue.symm ▸ h), hvalue]

theorem Numeral.number_plain {n : Nat} (h : n < Text.wordBound) :
    (Numeral.plain n).number = .ok (.ofInteger false n) := by
  rw [Numeral.number]
  simp only [Numeral.plain, absorb_whole h, and_self, if_true]

/-- A double is no natural number. -/
theorem Numeral.real_ne_natural (x : Numeral) (n : Nat) (e : Int) (k : UInt64) : x.real n e ≠ .ok (.natural k) := by
  have hreal (neg : Bool) (d : Float) : Number.ofReal neg d ≠ .natural k := by
    intro h
    cases h
  rw [Numeral.real]
  cases x.exponent with
  | none => cases scaled? n e <;> simp [hreal]
  | some exponent =>
    simp only [withExponent]
    split
    · split <;> simp [hreal]
    · split <;> simp [hreal]

theorem Number.ofInteger_eq_natural {negative : Bool} {n : Nat} {k : UInt64} (hn : n < Text.wordBound)
    (h : Number.ofInteger negative n = .natural k) : negative = false ∧ n = k.toNat := by
  cases negative with
  | false =>
    injection h with h
    refine ⟨rfl, ?_⟩
    rw [← h]
    exact (UInt64.toNat_ofNat_of_lt' hn).symm
  | true =>
    rw [Number.ofInteger] at h
    split at h
    · next hpos => cases hpos
    · split at h
      · cases h
      · cases h

/-- **Only a plain unsigned integer that a word holds is read as a natural number.** -/
theorem Numeral.number_eq_natural_iff (x : Numeral) (k : UInt64) :
    x.number = .ok (.natural k) ↔ x = Numeral.plain k.toNat := by
  constructor
  · intro h
    rw [Numeral.number] at h
    cases hfraction : x.fraction with
    | some ds =>
      rw [hfraction] at h
      exact absurd h (x.real_ne_natural _ _ k)
    | none =>
      simp only [hfraction] at h
      split at h
      · next hint =>
        have hlt : x.whole < Text.wordBound :=
          valueFrom_digits x.whole ▸ Digits.lt_of_left_eq_zero (by decide) hint.1
        rw [absorb_whole hlt] at h
        obtain ⟨hnegative, hwhole⟩ := Number.ofInteger_eq_natural hlt (Except.ok.inj h)
        obtain ⟨negative, whole, fraction, exponent⟩ := x
        simp only at hfraction hint hnegative hwhole
        rw [hfraction, hint.2, hnegative, hwhole]
        rfl
      · exact absurd h (x.real_ne_natural _ _ k)
  · rintro rfl
    rw [Numeral.number_plain k.toNat_lt, Number.ofInteger_natural]

end PlanBrowser.Json

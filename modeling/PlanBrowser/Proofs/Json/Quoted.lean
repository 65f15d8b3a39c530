import PlanBrowser.Json.Source
import PlanBrowser.Json.Write

/-!
# Quoted texts

A character of a quoted text may stand for itself or be escaped in several ways.  A text is read as the characters that it
spells, whichever of the ways is used for each of them.  Where nobody looks at it the text is passed over, and then nothing
can be wrong with it.

* `Json.SpellsText` — the ways to spell a text;
* `Json.SpellsText.flatMap_escaped` — **what is written for a text spells it**;
* `Json.textTail_spelled`, `Json.skipText_spelled` — **a quoted text is read**, or passed over, up to its closing mark.
-/

namespace PlanBrowser.Json

/-! ## Spelling -/

/-- **The ways to write the characters of a quoted text.** -/
inductive SpellsText : List Char → List Char → Prop
  | nil : SpellsText [] []
  /-- A character that stands for itself. -/
  | plain {c : Char} (hmark : c ≠ '"') (hslash : c ≠ '\\') (hcontrol : ¬ c.toNat < 32) {cs s : List Char} :
      SpellsText cs s → SpellsText (c :: cs) (c :: s)
  /-- A short escape. -/
  | short {c d : Char} (h : unescaped? c = some d) {cs s : List Char} :
      SpellsText cs s → SpellsText ('\\' :: c :: cs) (d :: s)
  /-- The four digits of a character. -/
  | unit {c₁ c₂ c₃ c₄ : Char} {n : Nat} (h : unit? (some c₁) (some c₂) (some c₃) (some c₄) = some n)
      (hleading : isLeading n = false) (htrailing : isTrailing n = false) {cs s : List Char} :
      SpellsText cs s → SpellsText ('\\' :: 'u' :: c₁ :: c₂ :: c₃ :: c₄ :: cs) (Char.ofNat n :: s)
  /-- A character that takes two times four digits. -/
  | pair {c₁ c₂ c₃ c₄ d₁ d₂ d₃ d₄ : Char} {n₁ n₂ : Nat}
      (h₁ : unit? (some c₁) (some c₂) (some c₃) (some c₄) = some n₁)
      (h₂ : unit? (some d₁) (some d₂) (some d₃) (some d₄) = some n₂)
      (hleading : isLeading n₁ = true) (htrailing : isTrailing n₂ = true) {cs s : List Char} :
      SpellsText cs s →
      SpellsText ('\\' :: 'u' :: c₁ :: c₂ :: c₃ :: c₄ :: '\\' :: 'u' :: d₁ :: d₂ :: d₃ :: d₄ :: cs)
        (paired n₁ n₂ :: s)

/-- Four hexadecimal digits, of which two are zeros. -/
theorem unit?_hexDigit {n : Nat} (h : n < 32) :
    unit? (some '0') (some '0') (some (hexDigit (n / 16))) (some (hexDigit (n % 16))) = some n := by
  have hall : ∀ n, n < 32 →
      unit? (some '0') (some '0') (some (hexDigit (n / 16))) (some (hexDigit (n % 16))) = some n := by
    decide
  exact hall n h

theorem isLeading_of_lt {n : Nat} (h : n < 32) : isLeading n = false := by
  have hlt : ¬ 0xD800 ≤ n := by omega
  rw [isLeading, decide_eq_false hlt, Bool.false_and]

theorem isTrailing_of_lt {n : Nat} (h : n < 32) : isTrailing n = false := by
  have hlt : ¬ 0xDC00 ≤ n := by omega
  rw [isTrailing, decide_eq_false hlt, Bool.false_and]

/-- What is written for a character spells it. -/
theorem SpellsText.escaped (c : Char) {cs s : List Char} (h : SpellsText cs s) :
    SpellsText (Json.escaped c ++ cs) (c :: s) := by
  have hself (n : Nat) (hn : c.toNat = n) : Char.ofNat n = c := hn ▸ Char.ofNat_toNat c
  unfold Json.escaped
  split
  · next hc => subst hc; exact .short rfl h
  split
  · next hc => subst hc; exact .short rfl h
  split
  · next hc => exact .short (show unescaped? 'b' = some c from congrArg some (hself 8 hc)) h
  split
  · next hc => exact .short (show unescaped? 't' = some c from congrArg some (hself 9 hc)) h
  split
  · next hc => exact .short (show unescaped? 'n' = some c from congrArg some (hself 10 hc)) h
  split
  · next hc => exact .short (show unescaped? 'f' = some c from congrArg some (hself 12 hc)) h
  split
  · next hc => exact .short (show unescaped? 'r' = some c from congrArg some (hself 13 hc)) h
  split
  · next hc =>
    have hunit := SpellsText.unit (unit?_hexDigit hc) (isLeading_of_lt hc) (isTrailing_of_lt hc) h
    rw [hself c.toNat rfl] at hunit
    exact hunit
  · next hmark hslash _ _ _ _ _ hcontrol => exact .plain hmark hslash hcontrol h

/-- A quoted text spells its characters. -/
theorem SpellsText.flatMap_escaped (s : List Char) : SpellsText (s.flatMap Json.escaped) s := by
  induction s with
  | nil => exact .nil
  | cons c s ih => exact ih.escaped c

/-! ## One character -/

/-- A short escape is read as the character that it stands for. -/
theorem textTail_short {c d : Char} (h : unescaped? c = some d) (acc rest : Source) :
    textTail acc (some '\\' :: some c :: rest) = textTail (some d :: acc) rest := by
  have hu : c ≠ 'u' := by
    rintro rfl
    cases h
  rw [textTail]
  · rw [h]
  all_goals simp_all

/-- Four digits are read as the character that they stand for. -/
theorem textTail_digits {c₁ c₂ c₃ c₄ : Option Char} {n : Nat} (h : unit? c₁ c₂ c₃ c₄ = some n)
    (hleading : isLeading n = false) (htrailing : isTrailing n = false) (acc rest : Source) :
    textTail acc (some '\\' :: some 'u' :: c₁ :: c₂ :: c₃ :: c₄ :: rest) =
      textTail (some (Char.ofNat n) :: acc) rest := by
  rw [textTail, h]
  simp only [hleading, htrailing, Bool.false_eq_true, if_false]

theorem not_isTrailing_of_isLeading {n : Nat} (h : isLeading n = true) : isTrailing n = false := by
  simp only [isLeading, isTrailing, Bool.and_eq_true, Bool.and_eq_false_iff, decide_eq_true_eq,
    decide_eq_false_iff_not] at h ⊢
  omega

/-- Two times four digits are read as the character that they stand for together. -/
theorem textTail_pair {c₁ c₂ c₃ c₄ d₁ d₂ d₃ d₄ : Option Char} {n₁ n₂ : Nat} (h₁ : unit? c₁ c₂ c₃ c₄ = some n₁)
    (h₂ : unit? d₁ d₂ d₃ d₄ = some n₂) (hleading : isLeading n₁ = true) (htrailing : isTrailing n₂ = true)
    (acc rest : Source) :
    textTail acc (some '\\' :: some 'u' :: c₁ :: c₂ :: c₃ :: c₄ ::
        some '\\' :: some 'u' :: d₁ :: d₂ :: d₃ :: d₄ :: rest) =
      textTail (some (paired n₁ n₂) :: acc) rest := by
  rw [textTail, h₁]
  simp only [not_isTrailing_of_isLeading hleading, hleading, h₂, htrailing, Bool.false_eq_true, if_false, if_true]

/-! ## A text -/

theorem mapM_id_map_some {α : Type} (l : List α) : (l.map some).mapM id = some l := by
  induction l with
  | nil => rfl
  | cons a l ih => simp [List.mapM_cons, ih]

/-- One more character is read, and then the rest of the text. -/
theorem textTail_next {src : Source} {c : Char} {read s : List Char} {rest : Source}
    (h : textTail ((c :: read).map some) src = .ok (String.ofList ((c :: read).reverse ++ s), rest)) :
    textTail (some c :: read.map some) src = .ok (String.ofList (read.reverse ++ c :: s), rest) := by
  rw [List.reverse_cons, List.append_assoc] at h
  exact h

/-- **A quoted text is read as the characters that it spells.** -/
theorem textTail_spelled {cs s : List Char} (h : SpellsText cs s) (read : List Char) (rest : Source) :
    textTail (read.map some) (cs.map some ++ some '"' :: rest) = .ok (String.ofList (read.reverse ++ s), rest) := by
  induction h generalizing read with
  | nil =>
    show textTail (read.map some) (some '"' :: rest) = _
    rw [textTail, ← List.map_reverse, mapM_id_map_some, List.append_nil]
  | plain hmark hslash hcontrol _ ih => exact (textTail_plain hmark hslash hcontrol _ _).trans (textTail_next (ih _))
  | short h _ ih => exact (textTail_short h _ _).trans (textTail_next (ih _))
  | unit h hleading htrailing _ ih => exact (textTail_digits h hleading htrailing _ _).trans (textTail_next (ih _))
  | pair h₁ h₂ hleading htrailing _ ih =>
    exact (textTail_pair h₁ h₂ hleading htrailing _ _).trans (textTail_next (ih _))

/-- A quoted text that nobody looks at is passed over. -/
theorem skipText_spelled {cs s : List Char} (h : SpellsText cs s) (rest : Source) :
    skipText (cs.map some ++ some '"' :: rest) = .ok rest := by
  induction h with
  | nil => rfl
  | @plain c hmark hslash hcontrol cs s _ ih =>
    have hplain : isControl (some c) = false := decide_eq_false hcontrol
    rw [List.map_cons, List.cons_append, skipText]
    · rw [hplain]
      exact ih
    all_goals simp_all
  | @short c d h cs s _ ih =>
    have hu : c ≠ 'u' := by
      rintro rfl
      cases h
    rw [List.map_cons, List.map_cons, List.cons_append, List.cons_append, skipText]
    · rw [h]
      exact ih
    all_goals simp_all
  | unit h _ _ _ ih =>
    simp only [List.map_cons, List.cons_append]
    rw [skipText, h]
    exact ih
  | pair h₁ h₂ _ _ _ ih =>
    simp only [List.map_cons, List.cons_append]
    rw [skipText, h₁]
    show skipText (some '\\' :: some 'u' :: _) = _
    rw [skipText, h₂]
    exact ih

end PlanBrowser.Json

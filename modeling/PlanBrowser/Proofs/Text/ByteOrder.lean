import Mathlib.Tactic.SplitIfs
import PlanBrowser.Proofs.Text.Ascii

/-!
# The order of bytes

Texts are put in order like the words of a dictionary, and it does not matter whether their characters are compared or
their bytes: the first byte of a character grows with the number of its bytes, and after it come the digits of the
character in base 64, the highest one first.

* `Text.Utf8.encodeChar_append_lt` — **a smaller character has smaller bytes**, whatever follows the two;
* `Text.Utf8.encode_lt_iff`, `Text.Utf8.bytesOf_lt_iff`, `Text.Utf8.bytesOf_le_iff` — **the order of the bytes is that of the
  characters**.
-/

namespace PlanBrowser.Text.Utf8

theorem toUInt8_lt_iff {m n : Nat} (hm : m < 256) (hn : n < 256) : m.toUInt8 < n.toUInt8 ↔ m < n := by
  rw [UInt8.lt_iff_toNat_lt, toNat_toUInt8 hm, toNat_toUInt8 hn]

theorem toUInt8_inj {m n : Nat} (hm : m < 256) (hn : n < 256) : m.toUInt8 = n.toUInt8 ↔ m = n := by
  rw [← UInt8.toNat_inj, toNat_toUInt8 hm, toNat_toUInt8 hn]

/-- **A smaller character has smaller bytes**, whatever follows the two. -/
theorem encodeChar_append_lt {c d : Char} (h : c.toNat < d.toNat) (as bs : List UInt8) :
    encodeChar c ++ as < encodeChar d ++ bs := by
  have hvalid : d.toNat < 0xD800 ∨ 0xDFFF < d.toNat ∧ d.toNat < 0x110000 := d.valid
  simp only [encodeChar]
  -- one case for each two numbers of bytes, and the smaller character does not have more of them
  split_ifs
  all_goals try omega
  all_goals
    simp (disch := omega) only [List.cons_append, List.nil_append, List.cons_lt_cons_iff, toUInt8_lt_iff, toUInt8_inj]
    omega

theorem encode_lt_of_lt {cs ds : List Char} (h : cs < ds) : encode cs < encode ds := by
  induction h with
  | @nil d ds =>
    obtain ⟨b, bs, hbs⟩ := List.exists_cons_of_ne_nil (encodeChar_ne_nil d)
    show [] < encodeChar d ++ encode ds
    rw [hbs]
    exact List.nil_lt_cons _ _
  | @cons c cs ds _ ih =>
    show encodeChar c ++ encode cs < encodeChar c ++ encode ds
    exact List.append_left_lt ih
  | @rel c cs d ds hlt =>
    show encodeChar c ++ encode cs < encodeChar d ++ encode ds
    exact encodeChar_append_lt hlt (encode cs) (encode ds)

/-- **The order of the bytes is that of the characters.** -/
theorem encode_lt_iff {cs ds : List Char} : encode cs < encode ds ↔ cs < ds := by
  refine ⟨fun h => ?_, encode_lt_of_lt⟩
  by_cases hlt : cs < ds
  · exact hlt
  · -- then the texts are the same or in the other order, and so are their bytes
    rcases List.le_iff_lt_or_eq.mp (List.not_lt.mp hlt) with hgt | rfl
    · exact absurd h (List.lt_asymm (encode_lt_of_lt hgt))
    · exact absurd h (List.lt_irrefl _)

theorem bytesOf_lt_iff {s t : String} : bytesOf s < bytesOf t ↔ s < t :=
  encode_lt_iff

theorem bytesOf_le_iff {s t : String} : bytesOf s ≤ bytesOf t ↔ s ≤ t := by
  rw [← List.not_lt, bytesOf_lt_iff, String.not_lt]

end PlanBrowser.Text.Utf8

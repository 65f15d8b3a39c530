import PlanBrowser.Proofs.Text.Utf8

/-!
# Classes of bytes and classes of characters

A character below 128 is its own byte, and all bytes of any other character are 128 or more.  So a class of bytes that
treats the bytes from 128 on alike is a class of characters: the bytes of a text belong to it exactly if the characters do.

* `Text.Utf8.encodeChar_of_lt`, `Text.Utf8.le_of_mem_encodeChar` — the bytes of a character, in both cases;
* `Text.Utf8.forall_mem_encode_iff` — **a class of bytes is a class of characters**;
* `Text.Utf8.length_encode` — a text of ASCII characters has as many bytes as characters.
-/

namespace PlanBrowser.Text.Utf8

/-- An ASCII character is its own byte. -/
theorem encodeChar_of_lt {c : Char} (h : c.toNat < 128) : encodeChar c = [c.toNat.toUInt8] := by
  rw [encodeChar]
  exact if_pos h

/-- Any other character has only bytes past ASCII. -/
theorem le_of_mem_encodeChar {c : Char} {b : UInt8} (h : 128 ≤ c.toNat) (hb : b ∈ encodeChar c) : 128 ≤ b.toNat := by
  have hvalid : c.toNat < 0xD800 ∨ 0xDFFF < c.toNat ∧ c.toNat < 0x110000 := c.valid
  -- every byte of such a character is 128 at least, and it is small enough to be one
  have hbyte {n : Nat} (hn : 128 ≤ n) (hn' : n < 256) (heq : b = n.toUInt8) : 128 ≤ b.toNat := by
    rw [heq, toNat_toUInt8 hn']
    exact hn
  rw [encodeChar] at hb
  simp only [if_neg (Nat.not_lt.mpr h)] at hb
  split at hb
  · simp only [List.mem_cons, List.not_mem_nil, or_false] at hb
    rcases hb with hb | hb <;> exact hbyte (by omega) (by omega) hb
  · split at hb
    · simp only [List.mem_cons, List.not_mem_nil, or_false] at hb
      rcases hb with hb | hb | hb <;> exact hbyte (by omega) (by omega) hb
    · simp only [List.mem_cons, List.not_mem_nil, or_false] at hb
      rcases hb with hb | hb | hb | hb <;> exact hbyte (by omega) (by omega) hb

theorem encodeChar_ne_nil (c : Char) : encodeChar c ≠ [] := by
  rw [encodeChar]
  split
  · exact List.cons_ne_nil _ _
  · split
    · exact List.cons_ne_nil _ _
    · split
      · exact List.cons_ne_nil _ _
      · exact List.cons_ne_nil _ _

theorem encode_eq_nil_iff {cs : List Char} : encode cs = [] ↔ cs = [] := by
  rw [← encode_inj]
  rfl

/-- **A class of bytes is a class of characters** if the two agree on ASCII and each of them treats all the rest alike. -/
theorem forall_mem_encode_iff {p : UInt8 → Prop} {q : Char → Prop} (rest : Prop)
    (hascii : ∀ n, n < 128 → (p n.toUInt8 ↔ q (Char.ofNat n)))
    (hbytes : ∀ b : UInt8, 128 ≤ b.toNat → (p b ↔ rest)) (hchars : ∀ c : Char, 128 ≤ c.toNat → (q c ↔ rest))
    (cs : List Char) : (∀ b ∈ encode cs, p b) ↔ ∀ c ∈ cs, q c := by
  have hchar (c : Char) : (∀ b ∈ encodeChar c, p b) ↔ q c := by
    by_cases hc : c.toNat < 128
    · rw [encodeChar_of_lt hc, List.forall_mem_singleton, hascii _ hc, Char.ofNat_toNat]
    · have hc : 128 ≤ c.toNat := Nat.not_lt.mp hc
      rw [hchars c hc]
      constructor
      · intro h
        obtain ⟨b, bs, hbs⟩ := List.exists_cons_of_ne_nil (encodeChar_ne_nil c)
        have hb : b ∈ encodeChar c := hbs ▸ List.mem_cons_self
        exact (hbytes b (le_of_mem_encodeChar hc hb)).mp (h b hb)
      · intro h b hb
        exact (hbytes b (le_of_mem_encodeChar hc hb)).mpr h
  simp only [encode, List.forall_mem_flatMap, hchar]

/-- **A text of ASCII characters** has as many bytes as characters. -/
theorem length_encode {cs : List Char} (h : ∀ c ∈ cs, c.toNat < 128) : (encode cs).length = cs.length := by
  induction cs with
  | nil => rfl
  | cons c cs ih =>
    rw [List.forall_mem_cons] at h
    show (encodeChar c ++ encode cs).length = _
    rw [encodeChar_of_lt h.1, List.length_append, ih h.2, List.length_singleton, List.length_cons, Nat.add_comm]

end PlanBrowser.Text.Utf8

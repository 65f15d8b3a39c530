import PlanBrowser.Text.Utf8

/-!
# Reading what was written as UTF-8

The bytes of a character begin with one that tells how many there are, and each of the others holds six bits.  A reader
that looks at these bytes finds the character again, and stops where the next one begins; so the bytes of a text are
read as the text, with no broken run among them.

* `Text.Utf8.decode_one`, … — **what is read** of one to four bytes that fit together;
* `Text.Utf8.decode_encodeChar` — a character is read from its bytes, whatever follows;
* `Text.Utf8.decode_encode`, `Text.Utf8.decodeLossy_encode`, `Text.Utf8.decode?_encode` — so is a text.
-/

namespace PlanBrowser.Text.Utf8

/-! ## Bytes that fit together -/

section Bytes

variable {a b c d : UInt8} (rest : List UInt8)

theorem isTail_iff : isTail b = true ↔ 0x80 ≤ b.toNat ∧ b.toNat ≤ 0xBF := by
  simp [isTail, UInt8.le_iff_toNat_le]

/-- The second byte of three or four, once overlong forms, surrogates and numbers that are too large are ruled out. -/
theorem secondFits_of (ha : 0xE0 ≤ a.toNat) (ha' : a.toNat ≤ 0xF4) (hb : isTail b = true)
    (hE0 : a.toNat = 0xE0 → 0xA0 ≤ b.toNat) (hED : a.toNat = 0xED → b.toNat ≤ 0x9F)
    (hF0 : a.toNat = 0xF0 → 0x90 ≤ b.toNat) (hF4 : a.toNat = 0xF4 → b.toNat ≤ 0x8F) :
    secondFits a b = true := by
  have hrange := isTail_iff.mp hb
  simp only [secondFits, hb, beq_iff_eq, ← UInt8.toNat_inj, UInt8.le_iff_toNat_le]
  simp
  repeat' split
  all_goals omega

theorem decode_one (ha : a.toNat < 0x80) :
    decode (a :: rest) = some (Char.ofNat a.toNat) :: decode rest := by
  have hlead : a < 0x80 := UInt8.lt_iff_toNat_lt.mpr ha
  rw [decode.eq_def]
  simp only [if_pos hlead]

theorem decode_two (ha : 0xC2 ≤ a.toNat) (ha' : a.toNat ≤ 0xDF) (hb : isTail b = true) :
    decode (a :: b :: rest) = some (Char.ofNat (a.toNat % 32 * 64 + low b)) :: decode rest := by
  have hlead : ¬ a < 0x80 := by
    simp [UInt8.le_iff_toNat_le]
    omega
  have htwo : (0xC2 ≤ a && a ≤ 0xDF && isTail b) = true := by
    simp [UInt8.le_iff_toNat_le, ha, ha', hb]
  rw [decode.eq_def]
  simp only [if_neg hlead, if_pos htwo]

theorem decode_three (ha : 0xE0 ≤ a.toNat) (ha' : a.toNat ≤ 0xEF) (hb : secondFits a b = true)
    (hc : isTail c = true) :
    decode (a :: b :: c :: rest) =
      some (Char.ofNat (a.toNat % 16 * 4096 + low b * 64 + low c)) :: decode rest := by
  have hlead : ¬ a < 0x80 := by
    simp [UInt8.le_iff_toNat_le]
    omega
  have htwo : ¬ (0xC2 ≤ a && a ≤ 0xDF && isTail b) = true := by
    simp [UInt8.le_iff_toNat_le]
    omega
  have hthree : a < 0xF0 := by
    simp [UInt8.lt_iff_toNat_lt]
    omega
  rw [decode.eq_def]
  simp only [if_neg hlead, if_neg htwo, hb, hc, Bool.not_true, Bool.false_eq_true, if_false, if_pos hthree]

theorem decode_four (ha : 0xF0 ≤ a.toNat) (hb : secondFits a b = true) (hc : isTail c = true)
    (hd : isTail d = true) :
    decode (a :: b :: c :: d :: rest) =
      some (Char.ofNat (a.toNat % 8 * 262144 + low b * 4096 + low c * 64 + low d)) :: decode rest := by
  have hlead : ¬ a < 0x80 := by
    simp [UInt8.le_iff_toNat_le]
    omega
  have htwo : ¬ (0xC2 ≤ a && a ≤ 0xDF && isTail b) = true := by
    simp [UInt8.le_iff_toNat_le]
    omega
  have hthree : ¬ a < 0xF0 := by
    simp [UInt8.le_iff_toNat_le]
    omega
  rw [decode.eq_def]
  simp only [if_neg hlead, if_neg htwo, hb, hc, hd, Bool.not_true, Bool.false_eq_true, if_false, if_neg hthree]

end Bytes

/-! ## The bytes of a character -/

theorem toNat_toUInt8 {n : Nat} (h : n < 256) : n.toUInt8.toNat = n := by
  show n % 256 = n
  omega

/-- A byte that holds six bits. -/
theorem isTail_toUInt8 {k : Nat} (hk : k < 64) : isTail (0x80 + k).toUInt8 = true := by
  rw [isTail_iff, toNat_toUInt8 (by omega)]
  omega

theorem low_toUInt8 {k : Nat} (hk : k < 64) : low (0x80 + k).toUInt8 = k := by
  rw [low, toNat_toUInt8 (by omega)]
  omega

/-- **A character is read from its bytes**, whatever follows them. -/
theorem decode_encodeChar (c : Char) (rest : List UInt8) :
    decode (encodeChar c ++ rest) = some c :: decode rest := by
  have hvalid : c.toNat < 0xD800 ∨ 0xDFFF < c.toNat ∧ c.toNat < 0x110000 := c.valid
  have hread {n : Nat} (h : n = c.toNat) : some (Char.ofNat n) = some c := by
    rw [h, Char.ofNat_toNat]
  have hsix (k : Nat) : k % 64 < 64 := Nat.mod_lt k (by decide)
  simp only [encodeChar]
  -- one case for each number of bytes; the number of the character is put together from them
  split
  · have ha : c.toNat.toUInt8.toNat = c.toNat := toNat_toUInt8 (by omega)
    show decode (_ :: rest) = _
    rw [decode_one rest (by omega), hread ha]
  · split
    · have ha : (0xC0 + c.toNat / 64).toUInt8.toNat = 0xC0 + c.toNat / 64 := toNat_toUInt8 (by omega)
      show decode (_ :: _ :: rest) = _
      rw [decode_two rest (by omega) (by omega) (isTail_toUInt8 (hsix _)), ha, low_toUInt8 (hsix _)]
      rw [hread (by omega)]
    · split
      · have ha : (0xE0 + c.toNat / 4096).toUInt8.toNat = 0xE0 + c.toNat / 4096 := toNat_toUInt8 (by omega)
        have hb : (0x80 + c.toNat / 64 % 64).toUInt8.toNat = 0x80 + c.toNat / 64 % 64 := toNat_toUInt8 (by omega)
        have hsecond := secondFits_of (a := (0xE0 + c.toNat / 4096).toUInt8) (by omega) (by omega)
          (isTail_toUInt8 (hsix (c.toNat / 64))) (by omega) (by omega) (by omega) (by omega)
        show decode (_ :: _ :: _ :: rest) = _
        rw [decode_three rest (by omega) (by omega) hsecond (isTail_toUInt8 (hsix _)), ha, low_toUInt8 (hsix _),
          low_toUInt8 (hsix _)]
        rw [hread (by omega)]
      · have ha : (0xF0 + c.toNat / 262144).toUInt8.toNat = 0xF0 + c.toNat / 262144 := toNat_toUInt8 (by omega)
        have hb : (0x80 + c.toNat / 4096 % 64).toUInt8.toNat = 0x80 + c.toNat / 4096 % 64 :=
          toNat_toUInt8 (by omega)
        have hsecond := secondFits_of (a := (0xF0 + c.toNat / 262144).toUInt8) (by omega) (by omega)
          (isTail_toUInt8 (hsix (c.toNat / 4096))) (by omega) (by omega) (by omega) (by omega)
        show decode (_ :: _ :: _ :: _ :: rest) = _
        rw [decode_four rest (by omega) hsecond (isTail_toUInt8 (hsix _)) (isTail_toUInt8 (hsix _)), ha,
          low_toUInt8 (hsix _), low_toUInt8 (hsix _), low_toUInt8 (hsix _)]
        rw [hread (by omega)]

/-! ## Texts -/

theorem decode_encode (cs : List Char) : decode (encode cs) = cs.map some := by
  induction cs with
  | nil => rfl
  | cons c cs ih =>
    show decode (encodeChar c ++ encode cs) = some c :: cs.map some
    rw [decode_encodeChar, ih]

/-- **The bytes of a text spell it.** -/
theorem decode?_encode (cs : List Char) : decode? (encode cs) = some cs := by
  rw [decode?, decode_encode]
  induction cs with
  | nil => rfl
  | cons c cs ih =>
    rw [List.map_cons, List.mapM_cons, ih]
    rfl

/-- Different texts have different bytes. -/
theorem encode_inj {cs ds : List Char} : encode cs = encode ds ↔ cs = ds := by
  constructor
  · intro h
    exact Option.some.inj (by rw [← decode?_encode, h, decode?_encode])
  · rintro rfl
    rfl

/-- **A text is read from its bytes**, and nothing in it is replaced. -/
theorem decodeLossy_encode (cs : List Char) : decodeLossy (encode cs) = cs := by
  rw [decodeLossy, decode_encode, List.map_map]
  exact List.map_id cs

end PlanBrowser.Text.Utf8

import PlanBrowser.Identity.Base64

/-!
# Letters are read as the bytes that they were written for

Six bits make a letter, and every letter is read as its six bits.  Three bytes are spread over four letters, and where
one or two bytes are left at the end, the bits of the last letter that belong to no byte are zero.  So a strict reader
gets back all bytes, whatever their number is.

* `Base64.value?_letter` — a letter is read as its bits;
* `Base64.decode?_encode` — **bytes are read from their letters**, in both alphabets;
* `Base64.url_of_mem_encode` — what never stands among the letters that are used in tokens.
-/

namespace PlanBrowser.Base64

theorem value?_letter (a : Alphabet) {n : Nat} (h : n < 64) : value? a (letter a n) = some n := by
  have hall : ∀ n, n < 64 → value? .plain (letter .plain n) = some n ∧ value? .url (letter .url n) = some n := by
    decide
  cases a with
  | plain => exact (hall n h).1
  | url => exact (hall n h).2

/-! ## Bytes from six bits -/

section Bytes

variable (x y z : UInt8)

/-- The first byte has all of the first letter, and the upper bits of the second one. -/
theorem first_byte {k : Nat} (hk : k < 16) :
    (x.toNat / 4 * 4 + (x.toNat % 4 * 16 + k) / 16).toUInt8 = x := by
  have hsum : x.toNat / 4 * 4 + (x.toNat % 4 * 16 + k) / 16 = x.toNat := by omega
  rw [hsum]
  exact UInt8.ofNat_toNat

/-- The second byte has the lower bits of the second letter, and the upper bits of the third one. -/
theorem second_byte {k : Nat} (hk : k < 4) :
    ((x.toNat % 4 * 16 + y.toNat / 16) % 16 * 16 + (y.toNat % 16 * 4 + k) / 4).toUInt8 = y := by
  have hy : y.toNat < 256 := y.toNat_lt
  have hsum : (x.toNat % 4 * 16 + y.toNat / 16) % 16 * 16 + (y.toNat % 16 * 4 + k) / 4 = y.toNat := by omega
  rw [hsum]
  exact UInt8.ofNat_toNat

/-- The third byte has the lower bits of the third letter, and all of the fourth one. -/
theorem third_byte : ((y.toNat % 16 * 4 + z.toNat / 64) % 4 * 64 + z.toNat % 64).toUInt8 = z := by
  have hz : z.toNat < 256 := z.toNat_lt
  have hsum : (y.toNat % 16 * 4 + z.toNat / 64) % 4 * 64 + z.toNat % 64 = z.toNat := by omega
  rw [hsum]
  exact UInt8.ofNat_toNat

end Bytes

/-! ## All bytes -/

/-- **Bytes are read from their letters.** -/
theorem decode?_encode (a : Alphabet) (bytes : List UInt8) : decode? a (encode a bytes) = some bytes := by
  have hbyte (x : UInt8) : x.toNat < 256 := x.toNat_lt
  -- three bytes at a time, with one case for each number of bytes at the end
  induction bytes using encode.induct with
  | case1 x y z rest ih =>
    have hx := hbyte x
    have hy := hbyte y
    have hz := hbyte z
    rw [encode, decode?, value?_letter a (by omega), value?_letter a (by omega), value?_letter a (by omega),
      value?_letter a (by omega), ih]
    show some (_ :: _ :: _ :: rest) = _
    rw [first_byte x (by omega), second_byte x y (by omega), third_byte y z]
  | case2 x y =>
    have hx := hbyte x
    have hy := hbyte y
    have hzero : y.toNat % 16 * 4 % 4 = 0 := Nat.mul_mod_left _ _
    rw [encode, decode?, value?_letter a (by omega), value?_letter a (by omega), value?_letter a (by omega)]
    show (if y.toNat % 16 * 4 % 4 = 0 then some [_, _] else none) = _
    rw [if_pos hzero, first_byte x (by omega)]
    exact congrArg (fun b => some [x, b]) (second_byte x y (k := 0) (by omega))
  | case3 x =>
    have hx := hbyte x
    have hzero : x.toNat % 4 * 16 % 16 = 0 := Nat.mul_mod_left _ _
    rw [encode, decode?, value?_letter a (by omega), value?_letter a (by omega)]
    show (if x.toNat % 4 * 16 % 16 = 0 then some [_] else none) = _
    rw [if_pos hzero]
    exact congrArg (fun b => some [b]) (first_byte x (k := 0) (by omega))
  | case4 => rfl

/-! ## The letters -/

theorem exists_letter_of_mem {a : Alphabet} {bytes : List UInt8} {c : Char} (h : c ∈ encode a bytes) :
    ∃ n < 64, c = letter a n := by
  have hbyte (x : UInt8) : x.toNat < 256 := x.toNat_lt
  induction bytes using encode.induct with
  | case1 x y z rest ih =>
    have hx := hbyte x
    have hy := hbyte y
    have hz := hbyte z
    simp only [encode, List.mem_cons] at h
    obtain rfl | rfl | rfl | rfl | h := h
    · exact ⟨_, by omega, rfl⟩
    · exact ⟨_, by omega, rfl⟩
    · exact ⟨_, by omega, rfl⟩
    · exact ⟨_, by omega, rfl⟩
    · exact ih h
  | case2 x y =>
    have hx := hbyte x
    have hy := hbyte y
    simp only [encode, List.mem_cons, List.not_mem_nil, or_false] at h
    obtain rfl | rfl | rfl := h
    · exact ⟨_, by omega, rfl⟩
    · exact ⟨_, by omega, rfl⟩
    · exact ⟨_, by omega, rfl⟩
  | case3 x =>
    have hx := hbyte x
    simp only [encode, List.mem_cons, List.not_mem_nil, or_false] at h
    obtain rfl | rfl := h
    · exact ⟨_, by omega, rfl⟩
    · exact ⟨_, by omega, rfl⟩
  | case4 => cases h

/-- **Tokens are cut at dots and filled up with equals signs**, and neither is a letter. -/
theorem url_of_mem_encode {bytes : List UInt8} {c : Char} (h : c ∈ encode .url bytes) : c ≠ '.' ∧ c ≠ '=' := by
  have hall : ∀ n, n < 64 → letter .url n ≠ '.' ∧ letter .url n ≠ '=' := by decide
  obtain ⟨n, hn, rfl⟩ := exists_letter_of_mem h
  exact hall n hn

end PlanBrowser.Base64

import PlanBrowser.Proofs.Text.Utf8
import PlanBrowser.Url.Form

/-!
# Reading the parameters that were written

A query is written with letters, digits and a few marks.  What parts it, the ampersand and the equals sign, never stands
in a key or a value; and a character that was encoded is decoded again.  So **every list of parameters is read from the
query that it was written as**, whatever the keys and the values are.

* `Url.percentDecode_codes` — bytes are read from their percent codes;
* `Url.mem_writePart` — the characters that a key or a value is written with;
* `Url.readPart_writePart`, `Url.readParameter_writeParameter` — one side, and one parameter;
* `Url.readParameters_writeParameters` — all parameters.
-/

namespace PlanBrowser.Url

open PlanBrowser.Text

/-! ## Percent codes -/

theorem hexDigit?_upperHex {n : Nat} (h : n < 16) : hexDigit? (upperHex n) = some n := by
  have hall : ∀ n, n < 16 → hexDigit? (upperHex n) = some n := by decide
  exact hall n h

theorem hexByte?_upperHex (b : UInt8) :
    hexByte? (upperHex (b.toNat / 16)) (upperHex (b.toNat % 16)) = some b := by
  have hb : b.toNat < 256 := b.toNat_lt
  have hsum : 16 * (b.toNat / 16) + b.toNat % 16 = b.toNat := Nat.div_add_mod b.toNat 16
  rw [hexByte?, hexDigit?_upperHex (by omega), hexDigit?_upperHex (by omega)]
  show some (16 * (b.toNat / 16) + b.toNat % 16).toUInt8 = some b
  rw [hsum]
  simp

/-- Bytes are read from their codes. -/
theorem percentDecode_codes (bs : List UInt8) (rest : List Char) :
    percentDecode (bs.flatMap percentCode ++ rest) = bs ++ percentDecode rest := by
  induction bs with
  | nil => rfl
  | cons b bs ih =>
    show percentDecode ('%' :: upperHex (b.toNat / 16) :: upperHex (b.toNat % 16) ::
      (bs.flatMap percentCode ++ rest)) = b :: (bs ++ percentDecode rest)
    rw [percentDecode, hexByte?_upperHex, ih]

/-- Every other character stands for its bytes. -/
theorem percentDecode_cons_of_ne {c : Char} (h : c ≠ '%') (rest : List Char) :
    percentDecode (c :: rest) = Utf8.encodeChar c ++ percentDecode rest := by
  rw [percentDecode]
  intro a b rest' hc
  exact absurd hc h

/-! ## One side of a parameter -/

theorem upperHex_isBare {n : Nat} (h : n < 16) : isBare (upperHex n) = true := by
  have hall : ∀ n, n < 16 → isBare (upperHex n) = true := by decide
  exact hall n h

/-- A character that a key or a value is written with. -/
def isWritten (c : Char) : Bool :=
  isBare c || c == '+' || c == '%'

theorem isWritten_of_mem_percentCode {b : UInt8} {c : Char} (h : c ∈ percentCode b) : isWritten c = true := by
  have hb : b.toNat < 256 := b.toNat_lt
  simp only [percentCode, List.mem_cons, List.not_mem_nil, or_false] at h
  obtain rfl | rfl | rfl := h
  · rfl
  · simp [isWritten, upperHex_isBare (n := b.toNat / 16) (by omega)]
  · simp [isWritten, upperHex_isBare (n := b.toNat % 16) (by omega)]

/-- **The characters that a key or a value is written with.** -/
theorem mem_writePart {s : String} {c : Char} (h : c ∈ writePart s) : isWritten c = true := by
  obtain ⟨d, -, hd⟩ := List.mem_flatMap.mp h
  rw [writeChar] at hd
  split at hd
  · next hbare =>
    rw [List.mem_singleton] at hd
    simp [isWritten, hd, hbare]
  · split at hd
    · rw [List.mem_singleton] at hd
      rw [hd]
      rfl
    · obtain ⟨b, -, hb⟩ := List.mem_flatMap.mp hd
      exact isWritten_of_mem_percentCode hb

theorem not_mem_writePart {c : Char} (h : isWritten c = false) (s : String) : c ∉ writePart s := by
  intro hc
  rw [mem_writePart hc] at h
  cases h

/-- A plus sign is read as a space. -/
def spaced (cs : List Char) : List Char :=
  cs.map fun c => if c = '+' then ' ' else c

theorem spaced_eq_self {cs : List Char} (h : '+' ∉ cs) : spaced cs = cs := by
  induction cs with
  | nil => rfl
  | cons c cs ih =>
    rw [List.mem_cons, not_or] at h
    show (if c = '+' then ' ' else c) :: spaced cs = c :: cs
    rw [if_neg (Ne.symm h.1), ih h.2]

theorem plus_not_mem_codes (bs : List UInt8) : '+' ∉ bs.flatMap percentCode := by
  intro h
  obtain ⟨b, -, hb⟩ := List.mem_flatMap.mp h
  have hlt : b.toNat < 256 := b.toNat_lt
  have hne : ∀ n, n < 16 → '+' ≠ upperHex n := by decide
  simp only [percentCode, List.mem_cons, List.not_mem_nil, or_false] at hb
  obtain hb | hb | hb := hb
  · exact absurd hb (by decide)
  · exact hne _ (by omega) hb
  · exact hne _ (by omega) hb

/-- One character that was written is read as its bytes. -/
theorem percentDecode_writeChar (c : Char) (rest : List Char) :
    percentDecode (spaced (writeChar c) ++ rest) = Utf8.encodeChar c ++ percentDecode rest := by
  rw [writeChar]
  split
  · next hbare =>
    have hplus : c ≠ '+' := by
      intro h
      rw [h] at hbare
      exact absurd hbare (by decide)
    have hpercent : c ≠ '%' := by
      intro h
      rw [h] at hbare
      exact absurd hbare (by decide)
    rw [spaced_eq_self (by simp [Ne.symm hplus])]
    exact percentDecode_cons_of_ne hpercent rest
  · split
    · next hspace =>
      rw [hspace]
      exact percentDecode_cons_of_ne (by decide) rest
    · rw [spaced_eq_self (plus_not_mem_codes _), percentDecode_codes]

theorem percentDecode_writePart (cs : List Char) :
    percentDecode (spaced (cs.flatMap writeChar)) = Utf8.encode cs := by
  induction cs with
  | nil => rfl
  | cons c cs ih =>
    have hsplit : spaced ((c :: cs).flatMap writeChar) = spaced (writeChar c) ++ spaced (cs.flatMap writeChar) :=
      List.map_append
    rw [hsplit, percentDecode_writeChar, ih]
    rfl

/-- **One side of a parameter is read as it was written.** -/
theorem readPart_writePart (s : String) : readPart (writePart s) = s := by
  show String.ofList (Utf8.decodeLossy (percentDecode (spaced (s.toList.flatMap writeChar)))) = s
  rw [percentDecode_writePart, Utf8.decodeLossy_encode, String.ofList_toList]

/-! ## Parameters -/

theorem readParameter_writeParameter (p : Parameter) : readParameter (writeParameter p) = p := by
  rw [readParameter, writeParameter, cutFirst?_append_cons (not_mem_writePart (by decide) p.1)]
  show (readPart (writePart p.1), readPart (writePart p.2)) = p
  rw [readPart_writePart, readPart_writePart]

theorem writeParameter_ne_nil (p : Parameter) : writeParameter p ≠ [] := by
  rw [writeParameter]
  simp

theorem ampersand_not_mem_writeParameter (p : Parameter) : '&' ∉ writeParameter p := by
  rw [writeParameter, List.mem_append, List.mem_cons]
  intro h
  obtain hkey | heq | hvalue := h
  · exact not_mem_writePart (by decide) p.1 hkey
  · exact absurd heq (by decide)
  · exact not_mem_writePart (by decide) p.2 hvalue

/-- **All parameters are read as they were written.** -/
theorem readParameters_writeParameters (ps : List Parameter) : readParameters (writeParameters ps) = ps := by
  by_cases hps : ps = []
  · rw [hps]
    rfl
  · have hne : ps.map writeParameter ≠ [] := fun h => hps (List.map_eq_nil_iff.mp h)
    have hsep : ∀ p ∈ ps.map writeParameter, '&' ∉ p := by
      intro p hp
      obtain ⟨q, -, rfl⟩ := List.mem_map.mp hp
      exact ampersand_not_mem_writeParameter q
    have hfull : (ps.map writeParameter).filter (!·.isEmpty) = ps.map writeParameter := by
      rw [List.filter_eq_self]
      intro p hp
      obtain ⟨q, -, rfl⟩ := List.mem_map.mp hp
      simp [writeParameter_ne_nil]
    rw [readParameters, writeParameters, pieces_joined hne hsep, hfull, List.map_map]
    show ps.map (fun p => readParameter (writeParameter p)) = ps
    simp only [readParameter_writeParameter, List.map_id']

example : String.ofList (writeParameters [("a b", "é&=%+"), ("", "")]) = "a+b=%C3%A9%26%3D%25%2B&=" := by
  decide +kernel

end PlanBrowser.Url

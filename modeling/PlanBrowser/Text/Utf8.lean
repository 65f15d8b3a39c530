/-!
# UTF-8

Texts travel as bytes.  `encode` writes characters, `decode` reads bytes.  Reading never fails: bytes
that belong to no character are reported as `none`, one report for each **maximal broken run** (the
longest beginning of a character that the bytes spell before they go wrong, at least one byte).  The two
readers of whole texts differ in what they make of such a report.

* `encodeChar`, `encode` — characters to bytes;
* `decode` — bytes to characters and reports;
* `decode?` — the text, if every byte belongs to a character;
* `decodeLossy` — the text with the replacement character `U+FFFD` for every report.
-/

namespace PlanBrowser.Text.Utf8

/-- The one to four bytes of a character. -/
def encodeChar (c : Char) : List UInt8 :=
  let n := c.toNat
  if n < 0x80 then [n.toUInt8]
  else if n < 0x800 then [(0xC0 + n / 64).toUInt8, (0x80 + n % 64).toUInt8]
  else if n < 0x10000 then
    [(0xE0 + n / 4096).toUInt8, (0x80 + n / 64 % 64).toUInt8, (0x80 + n % 64).toUInt8]
  else
    [(0xF0 + n / 262144).toUInt8, (0x80 + n / 4096 % 64).toUInt8, (0x80 + n / 64 % 64).toUInt8,
      (0x80 + n % 64).toUInt8]

/-- The bytes of a text. -/
def encode (cs : List Char) : List UInt8 :=
  cs.flatMap encodeChar

/-- The bytes of a string. -/
def bytesOf (s : String) : List UInt8 :=
  encode s.toList

/-- A continuation byte. -/
def isTail (b : UInt8) : Bool :=
  0x80 ≤ b && b ≤ 0xBF

/-- The second bytes that may follow the first byte of a three or four byte character: they rule out
overlong forms, surrogates and numbers past `U+10FFFF`. -/
def secondFits (a b : UInt8) : Bool :=
  if a == 0xE0 then 0xA0 ≤ b && b ≤ 0xBF
  else if a == 0xED then 0x80 ≤ b && b ≤ 0x9F
  else if a == 0xF0 then 0x90 ≤ b && b ≤ 0xBF
  else if a == 0xF4 then 0x80 ≤ b && b ≤ 0x8F
  else (0xE1 ≤ a && a ≤ 0xEF || 0xF1 ≤ a && a ≤ 0xF3) && isTail b

/-- The payload of a continuation byte. -/
def low (b : UInt8) : Nat :=
  b.toNat % 64

/-- **Reading bytes**: each character, and `none` for each maximal broken run. -/
def decode : List UInt8 → List (Option Char)
  | [] => []
  | a :: r₁ =>
    if a < 0x80 then some (Char.ofNat a.toNat) :: decode r₁
    else
      match r₁ with
      | [] => [none]
      | b :: r₂ =>
        if 0xC2 ≤ a && a ≤ 0xDF && isTail b then
          some (Char.ofNat (a.toNat % 32 * 64 + low b)) :: decode r₂
        else if !secondFits a b then none :: decode (b :: r₂)
        else
          match r₂ with
          | [] => [none]
          | c :: r₃ =>
            if !isTail c then none :: decode (c :: r₃)
            else if a < 0xF0 then
              some (Char.ofNat (a.toNat % 16 * 4096 + low b * 64 + low c)) :: decode r₃
            else
              match r₃ with
              | [] => [none]
              | d :: r₄ =>
                if !isTail d then none :: decode (d :: r₄)
                else
                  some (Char.ofNat (a.toNat % 8 * 262144 + low b * 4096 + low c * 64 + low d))
                    :: decode r₄

/-- The text that the bytes spell, if they spell one. -/
def decode? (bs : List UInt8) : Option (List Char) :=
  (decode bs).mapM id

/-- The text with a replacement character for every broken run. -/
def decodeLossy (bs : List UInt8) : List Char :=
  (decode bs).map (·.getD (Char.ofNat 0xFFFD))

end PlanBrowser.Text.Utf8

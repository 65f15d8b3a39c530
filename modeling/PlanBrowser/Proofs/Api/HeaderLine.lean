import PlanBrowser.Proofs.Api.Carried
import PlanBrowser.Proofs.Result
import PlanBrowser.Proofs.Text.Ascii

/-!
# Which lines are headers

A header line is cut at its first colon.  What stands before it must be a token and what stands after it must be a text,
both without the blanks around them.  What a token and a text are is said about the bytes that are sent: a token has some
bytes out of a small class, and a text has no control byte but the tab.  So nothing that a user says about the headers
can end a header and begin another one.

* `Header.IsToken`, `Header.IsText` — the bytes of a token and of a text;
* `Header.readName?_eq_some_iff`, `Header.readValue?_eq_some_iff` — names and values;
* `Header.read_eq_ok_iff`, `Header.cookie_eq_ok_iff` — which lines are headers, and of what, and which tokens are cookies;
* `Header.IsClean` — no line ends and no zeros;
* `Options.defaultHeaders_eq_ok_iff` — the headers that options come to;
* `Options.headers_cannot_be_split` — **which lines are headers**, and that all headers are clean.
-/

namespace PlanBrowser

open Text (trim trimChars isBlankText)
open Text.Utf8 (encode)

namespace Header

/-! ## Tokens and texts -/

/-- A byte of a token: a letter, a digit or a mark, but no bracket, separator or backslash. -/
def isTokenByte (b : UInt8) : Bool :=
  let n := b.toNat
  (0x21 ≤ n && n ≤ 0x27) || n == 0x2A || n == 0x2B || n == 0x2D || n == 0x2E || (0x30 ≤ n && n ≤ 0x39)
    || (0x41 ≤ n && n ≤ 0x5A) || (0x5E ≤ n && n ≤ 0x7A) || n == 0x7C || n == 0x7E

/-- **The bytes of a token.** -/
structure IsToken (bytes : List UInt8) : Prop where
  nonempty : bytes ≠ []
  short : bytes.length ≤ 65535
  tokenBytes : ∀ b ∈ bytes, isTokenByte b = true

/-- **The bytes of a text**: no control byte but the tab. -/
def IsText (bytes : List UInt8) : Prop :=
  ∀ b ∈ bytes, b = 0x09 ∨ (0x20 ≤ b ∧ b ≠ 0x7F)

theorem toNat_lt_of_isAlphanum {c : Char} (h : c.isAlphanum = true) : c.toNat < 128 := by
  change (decide (c.val ≥ 'A'.val ∧ c.val ≤ 'Z'.val) || (c.val ≥ 'a'.val && c.val ≤ 'z'.val) ||
    (c.val ≥ '0'.val && c.val ≤ '9'.val)) = true at h
  simp only [Bool.or_eq_true, Bool.and_eq_true, decide_eq_true_eq, UInt32.le_iff_toNat_le, ge_iff_le] at h
  have hZ : 'Z'.val.toNat = 90 := rfl
  have hz : 'z'.val.toNat = 122 := rfl
  have h9 : '9'.val.toNat = 57 := rfl
  have hc : c.toNat = c.val.toNat := rfl
  omega

/-- A name has ASCII characters only. -/
theorem toNat_lt_of_isNameChar {c : Char} (h : isNameChar c = true) : c.toNat < 128 := by
  rw [isNameChar, Bool.or_eq_true] at h
  obtain h | h := h
  · exact toNat_lt_of_isAlphanum h
  · have hmarks : nameMarks.all (fun m => m.toNat < 128) = true := by decide
    exact of_decide_eq_true (List.all_eq_true.mp hmarks c (List.contains_iff_mem.mp h))

theorem isValueChar_of_le {c : Char} (h : 128 ≤ c.toNat) : isValueChar c = true := by
  simp only [isValueChar, Bool.or_eq_true, Bool.and_eq_true, decide_eq_true_eq, bne_iff_ne]
  omega

/-- **The characters of a name** are those whose bytes are bytes of a token. -/
theorem isTokenByte_encode_iff (cs : List Char) :
    (∀ b ∈ encode cs, isTokenByte b = true) ↔ ∀ c ∈ cs, isNameChar c = true := by
  apply Text.Utf8.forall_mem_encode_iff False
  · decide +kernel
  · intro b hb
    simp only [isTokenByte, Bool.or_eq_true, Bool.and_eq_true, decide_eq_true_eq, beq_iff_eq, iff_false]
    omega
  · intro c hc
    exact iff_of_false (fun h => absurd (toNat_lt_of_isNameChar h) (Nat.not_lt.mpr hc)) id

/-- **The characters of a value** are those whose bytes are bytes of a text. -/
theorem isText_encode_iff (cs : List Char) : IsText (encode cs) ↔ ∀ c ∈ cs, isValueChar c = true := by
  apply Text.Utf8.forall_mem_encode_iff True
  · decide +kernel
  · intro b hb
    refine iff_of_true (.inr ⟨?_, ?_⟩) trivial
    · rw [UInt8.le_iff_toNat_le]
      exact Nat.le_trans (by decide) hb
    · rintro rfl
      exact absurd hb (by decide)
  · intro c hc
    exact iff_of_true (isValueChar_of_le hc) trivial

/-- **A name is read** from the bytes of a token, and put in lower case. -/
theorem readName?_eq_some_iff {cs : List Char} {name : String} :
    readName? cs = some name ↔ IsToken (encode cs) ∧ name = String.ofList (cs.map Char.toLower) := by
  have hlength (h : ∀ c ∈ cs, isNameChar c = true) : (encode cs).length = cs.length :=
    Text.Utf8.length_encode fun c hc => toNat_lt_of_isNameChar (h c hc)
  have haccepted : (cs.isEmpty || decide (longestName < cs.length) || !cs.all isNameChar) = false ↔
      IsToken (encode cs) := by
    simp only [Bool.or_eq_false_iff, List.isEmpty_eq_false_iff, decide_eq_false_iff_not, Nat.not_lt, Bool.not_eq_false',
      List.all_eq_true]
    constructor
    · rintro ⟨⟨hne, hshort⟩, hall⟩
      refine ⟨fun h => hne (Text.Utf8.encode_eq_nil_iff.mp h), ?_, (isTokenByte_encode_iff cs).mpr hall⟩
      rw [hlength hall]
      exact hshort
    · rintro ⟨hne, hshort, hbytes⟩
      have hall := (isTokenByte_encode_iff cs).mp hbytes
      rw [hlength hall] at hshort
      exact ⟨⟨fun h => hne (Text.Utf8.encode_eq_nil_iff.mpr h), hshort⟩, hall⟩
  rw [readName?, ← haccepted]
  cases cs.isEmpty || decide (longestName < cs.length) || !cs.all isNameChar with
  | true => exact ⟨nofun, nofun⟩
  | false =>
    rw [if_neg Bool.false_ne_true, Option.some.injEq, eq_comm]
    exact (and_iff_right rfl).symm

/-- **A value is read** from the bytes of a text, as it is. -/
theorem readValue?_eq_some_iff {cs : List Char} {value : String} :
    readValue? cs = some value ↔ IsText (encode cs) ∧ value = String.ofList cs := by
  rw [readValue?, isText_encode_iff, ← List.all_eq_true]
  cases cs.all isValueChar with
  | false => exact ⟨nofun, nofun⟩
  | true =>
    rw [if_pos rfl, Option.some.injEq, eq_comm]
    exact (and_iff_right rfl).symm

/-- **Which lines are headers**: those with a token before their first colon and a text after it, blanks set aside. -/
theorem read_eq_ok_iff {line : String} {h : Header} :
    read line = .ok h ↔
      ∃ before after, line.toList = before ++ ':' :: after ∧ ':' ∉ before ∧ IsToken (encode (trimChars before)) ∧
        IsText (encode (trimChars after)) ∧
        h = ⟨String.ofList ((trimChars before).map Char.toLower), String.ofList (trimChars after)⟩ := by
  rw [read]
  constructor
  · intro hread
    cases hcut : Text.cutFirst? ':' line.toList with
    | none =>
      rw [hcut] at hread
      cases hread
    | some cut =>
      obtain ⟨before, after⟩ := cut
      rw [hcut] at hread
      dsimp only at hread
      obtain ⟨hline, hbefore⟩ := Text.cutFirst?_eq_some_iff.mp hcut
      cases hname : readName? (trimChars before) with
      | none =>
        rw [hname] at hread
        cases hread
      | some name =>
        cases hvalue : readValue? (trimChars after) with
        | none =>
          rw [hname, hvalue] at hread
          cases hread
        | some value =>
          rw [hname, hvalue] at hread
          obtain ⟨htoken, rfl⟩ := readName?_eq_some_iff.mp hname
          obtain ⟨htext, rfl⟩ := readValue?_eq_some_iff.mp hvalue
          exact ⟨before, after, hline, hbefore, htoken, htext, (Except.ok.inj hread).symm⟩
  · rintro ⟨before, after, hline, hbefore, htoken, htext, rfl⟩
    have hcut := Text.cutFirst?_eq_some_iff.mpr ⟨hline, hbefore⟩
    have hname := readName?_eq_some_iff.mpr ⟨htoken, rfl⟩
    have hvalue := readValue?_eq_some_iff.mpr ⟨htext, rfl⟩
    rw [hcut]
    dsimp only
    rw [hname, hvalue]

/-- **A token makes a cookie** if it is a text, blanks set aside. -/
theorem cookie_eq_ok_iff {token : String} {h : Header} :
    cookie token = .ok h ↔ IsText (encode (trimChars token.toList)) ∧ h = ⟨"cookie", "JWT=" ++ trim token⟩ := by
  have htext : IsText (encode ("JWT=".toList ++ trimChars token.toList)) ↔ IsText (encode (trimChars token.toList)) := by
    have hname : "JWT=".toList.all isValueChar = true := by decide +kernel
    rw [isText_encode_iff, isText_encode_iff, List.forall_mem_append]
    exact and_iff_right (List.all_eq_true.mp hname)
  constructor
  · intro hcookie
    refine ⟨?_, Options.eq_of_cookie hcookie⟩
    rw [cookie] at hcookie
    split at hcookie
    · next value hvalue => exact htext.mp (readValue?_eq_some_iff.mp hvalue).1
    · cases hcookie
  · rintro ⟨hbytes, rfl⟩
    have hvalue := readValue?_eq_some_iff.mpr ⟨htext.mpr hbytes, rfl⟩
    rw [cookie, hvalue, String.ofList_append, String.ofList_toList]
    rfl

/-! ## Headers that cannot be split -/

/-- **No line ends and no zeros**, in the name or in the value. -/
def IsClean (h : Header) : Prop :=
  ∀ c ∈ h.name.toList ++ h.value.toList, c ≠ '\r' ∧ c ≠ '\n' ∧ c ≠ Char.ofNat 0

theorem isClean_of_isValueChar {h : Header} (hchars : ∀ c ∈ h.name.toList ++ h.value.toList, isValueChar c = true) :
    h.IsClean := by
  intro c hc
  have hvalue := hchars c hc
  refine ⟨?_, ?_, ?_⟩ <;> rintro rfl <;> exact absurd hvalue (by decide)

theorem isValueChar_toLower {c : Char} (h : isNameChar c = true) : isValueChar c.toLower = true := by
  have hascii : ∀ n, n < 128 → isNameChar (Char.ofNat n) = true → isValueChar (Char.ofNat n).toLower = true := by
    decide +kernel
  rw [← Char.ofNat_toNat c] at h ⊢
  exact hascii _ (toNat_lt_of_isNameChar (Char.ofNat_toNat c ▸ h)) h

/-- **The header of a line is clean.** -/
theorem isClean_of_read {line : String} {h : Header} (hread : read line = .ok h) : h.IsClean := by
  obtain ⟨before, after, -, -, htoken, htext, rfl⟩ := read_eq_ok_iff.mp hread
  have hname := (isTokenByte_encode_iff _).mp htoken.tokenBytes
  have hvalue := (isText_encode_iff _).mp htext
  apply isClean_of_isValueChar
  rw [String.toList_ofList, String.toList_ofList, List.forall_mem_append, List.forall_mem_map]
  exact ⟨fun c hc => isValueChar_toLower (hname c hc), hvalue⟩

/-- **The cookie of a token is clean.** -/
theorem isClean_of_cookie {token : String} {h : Header} (hcookie : cookie token = .ok h) : h.IsClean := by
  obtain ⟨htext, rfl⟩ := cookie_eq_ok_iff.mp hcookie
  have hnames : ("cookie".toList ++ "JWT=".toList).all isValueChar = true := by decide +kernel
  have htoken : ∀ c ∈ (trim token).toList, isValueChar c = true := by
    rw [trim, String.toList_ofList]
    exact (isText_encode_iff _).mp htext
  apply isClean_of_isValueChar
  dsimp only
  rw [String.toList_append, ← List.append_assoc, List.forall_mem_append]
  exact ⟨List.all_eq_true.mp hnames, htoken⟩

end Header

namespace Options

section

variable {read : String → Except Header.Fault Header} {said : Option String} {s : String} {headers : List Header}

/-- A blank text adds no header. -/
theorem optionalHeader_of_blank (h : said.all isBlankText = true) : optionalHeader read said = .ok [] := by
  cases said with
  | none => rfl
  | some s =>
    have hblank : isBlankText s = true := h
    rw [optionalHeader, Option.bind_some, Text.given?, hblank]
    rfl

/-- Any other text adds the header that is read from it. -/
theorem optionalHeader_eq_ok_iff (hfull : isBlankText s = false) :
    optionalHeader read (some s) = .ok headers ↔ ∃ k, read s = .ok k ∧ headers = [k] := by
  rw [optionalHeader, Option.bind_some, Text.given?, hfull, if_neg Bool.false_ne_true]
  dsimp only
  cases hread : read s with
  | ok k =>
    constructor
    · exact fun h => ⟨k, rfl, (Except.ok.inj h).symm⟩
    · rintro ⟨_, hk, rfl⟩
      cases hk
      rfl
  | error fault =>
    constructor
    · intro h
      cases h
    · rintro ⟨_, h, -⟩
      cases h

theorem isClean_of_optionalHeader (hread : ∀ s k, read s = .ok k → k.IsClean)
    (h : optionalHeader read said = .ok headers) : ∀ k ∈ headers, k.IsClean := by
  cases hblank : said.all isBlankText with
  | true =>
    rw [optionalHeader_of_blank hblank] at h
    cases h
    exact nofun
  | false =>
    cases said with
    | none => cases hblank
    | some s =>
      obtain ⟨k, hk, rfl⟩ := (optionalHeader_eq_ok_iff hblank).mp h
      rw [List.forall_mem_singleton]
      exact hread s k hk

end

/-- **The headers that options come to**: the client's own, then the cookie, then the one of the user's line. -/
theorem defaultHeaders_eq_ok_iff {o : Options} {headers : List Header} :
    o.defaultHeaders = .ok headers ↔
      ∃ cookies extras, optionalHeader Header.cookie o.token = .ok cookies ∧
        optionalHeader Header.read o.header = .ok extras ∧ ownHeaders ++ cookies ++ extras = headers := by
  simp only [defaultHeaders, bind_eq_ok, pure, Except.pure, Except.ok.injEq]
  constructor
  · rintro ⟨cookies, hcookies, extras, hextras, heq⟩
    exact ⟨cookies, extras, hcookies, hextras, heq⟩
  · rintro ⟨cookies, extras, hcookies, hextras, heq⟩
    exact ⟨cookies, hcookies, extras, hextras, heq⟩

theorem isClean_of_mem_ownHeaders {h : Header} (hmem : h ∈ ownHeaders) : h.IsClean := by
  have hall : ownHeaders.all (fun h => (h.name.toList ++ h.value.toList).all Header.isValueChar) = true := by
    decide +kernel
  exact Header.isClean_of_isValueChar (List.all_eq_true.mp (List.all_eq_true.mp hall h hmem))

/-- **Headers cannot be split.**  A line is a header exactly if it has a colon, what stands before the first one is a token
of at most 65535 bytes, and what stands after it is a text, both without the blanks around them.  The header has the token
in lower case for its name, and the text for its value, with all further colons.  And whenever options are accepted, none
of the headers that they come to has a line end or a zero in it, be it the client's own, the cookie or the user's; a blank
line and a blank token add none; and these are the headers that a client is made with. -/
theorem headers_cannot_be_split :
    (∀ line h, Header.read line = .ok h ↔
      ∃ before after, line.toList = before ++ ':' :: after ∧ ':' ∉ before ∧ Header.IsToken (encode (trimChars before)) ∧
        Header.IsText (encode (trimChars after)) ∧
        h = ⟨String.ofList ((trimChars before).map Char.toLower), String.ofList (trimChars after)⟩) ∧
      ∀ (o : Options) (headers : List Header), o.defaultHeaders = .ok headers →
        (∀ h ∈ headers, h.IsClean) ∧
        (∃ cookies extras, headers = ownHeaders ++ cookies ++ extras ∧
          (o.token.all isBlankText = true → cookies = []) ∧ (o.header.all isBlankText = true → extras = []) ∧
          (∀ t, o.token = some t → isBlankText t = false → cookies = [⟨"cookie", "JWT=" ++ trim t⟩]) ∧
          ∀ line, o.header = some line → isBlankText line = false → ∃ h, Header.read line = .ok h ∧ extras = [h]) ∧
        ∀ server c, Client.ofServer o server = .ok c → c.headers = headers := by
  refine ⟨fun line h => Header.read_eq_ok_iff, ?_⟩
  intro o headers haccepted
  obtain ⟨cookies, extras, hcookies, hextras, hall⟩ := defaultHeaders_eq_ok_iff.mp haccepted
  refine ⟨?_, ⟨cookies, extras, hall.symm, ?_, ?_, ?_, ?_⟩, ?_⟩
  · rw [← hall, List.forall_mem_append, List.forall_mem_append]
    refine ⟨⟨fun h => isClean_of_mem_ownHeaders, ?_⟩, ?_⟩
    · exact isClean_of_optionalHeader (fun _ _ => Header.isClean_of_cookie) hcookies
    · exact isClean_of_optionalHeader (fun _ _ => Header.isClean_of_read) hextras
  · intro hblank
    rw [optionalHeader_of_blank hblank] at hcookies
    exact (Except.ok.inj hcookies).symm
  · intro hblank
    rw [optionalHeader_of_blank hblank] at hextras
    exact (Except.ok.inj hextras).symm
  · intro t ht hfull
    rw [ht] at hcookies
    obtain ⟨h, hread, rfl⟩ := (optionalHeader_eq_ok_iff hfull).mp hcookies
    rw [eq_of_cookie hread]
  · intro line hline hfull
    rw [hline] at hextras
    exact (optionalHeader_eq_ok_iff hfull).mp hextras
  · intro server c hclient
    have hclient := Client.headers_of_ofServer hclient
    rw [haccepted] at hclient
    exact (Except.ok.inj hclient).symm

/-- A header with blanks around its name and a colon in its value, beside a token. -/
theorem headers_cannot_be_split_beside_token :
    let o : Options := ⟨10, none, some " X-Trace :\ta:b ", some " t "⟩
    let headers : List Header := ownHeaders ++ [⟨"cookie", "JWT=t"⟩] ++ [⟨"x-trace", "a:b"⟩]
    o.defaultHeaders = .ok headers ∧ (∀ h ∈ headers, h.IsClean) ∧
      Header.read " X-Trace :\ta:b " = .ok ⟨"x-trace", "a:b"⟩ := by
  intro o headers
  obtain ⟨hlines, hheaders⟩ := headers_cannot_be_split
  have haccepted : o.defaultHeaders = .ok headers := by decide +kernel
  have htoken : Header.IsToken (encode (trimChars " X-Trace ".toList)) :=
    ⟨by decide +kernel, by decide +kernel, by decide +kernel⟩
  have htext : Header.IsText (encode (trimChars "\ta:b ".toList)) := by
    unfold Header.IsText
    decide +kernel
  refine ⟨haccepted, (hheaders o headers haccepted).1, (hlines _ _).mpr ⟨_, _, ?_, ?_, htoken, htext, ?_⟩⟩
  all_goals decide +kernel

end Options

end PlanBrowser

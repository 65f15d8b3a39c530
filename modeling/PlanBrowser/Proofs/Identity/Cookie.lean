import PlanBrowser.Identity.Token
import PlanBrowser.Proofs.Api.HeaderLine
import PlanBrowser.Proofs.Text.Blank

/-!
# The token in a cookie header

A cookie header is a row of cookies with semicolons between them.  There may be blanks on both sides of a semicolon, and
pieces that are no cookies since they have no equals sign.  The token is in the first cookie of its name, whatever stands
before and behind it, and nowhere else; a blank one is no token, even if another cookie of the name follows.

* `Cookie`, `CookiePiece` — what a cookie header is made of, and `cookieHeader`, the header;
* `readCookie?_text` — a cookie is found again between its blanks;
* `tokenOfCookies?_cookieHeader` — the token of a header in terms of its cookies;
* `tokenOfCookies?_cookie` — the token is read back from the cookie that is made of it;
* `first_token_cookie_counts` — **the token is in the first cookie of its name**.
-/

namespace PlanBrowser.Identity

open Text (isBlank isBlankText trim trimChars trimEnd pieces joined cutFirst?)

/-! ## Cookies and what stands between them -/

/-- **A cookie.**  Its name has no separators and does not begin with a blank, and its value has no semicolon. -/
structure Cookie where
  name : String
  value : String
  name_plain : ';' ∉ name.toList ∧ '=' ∉ name.toList
  name_flush : name.toList.head?.any isBlank = false
  value_plain : ';' ∉ value.toList

/-- **What stands between two semicolons**: a cookie with blanks around it, or a text that is none. -/
inductive CookiePiece where
  | cookie (before : {s : String // isBlankText s = true}) (c : Cookie) (after : {s : String // isBlankText s = true})
  | other (text : {s : String // ';' ∉ s.toList ∧ '=' ∉ s.toList})

namespace CookiePiece

/-- The text of the piece. -/
def text : CookiePiece → List Char
  | cookie before c after => before.val.toList ++ (c.name.toList ++ '=' :: (c.value.toList ++ after.val.toList))
  | other text => text.val.toList

/-- The cookie of the piece. -/
def cookie? : CookiePiece → Option Cookie
  | cookie _ c _ => some c
  | other _ => none

end CookiePiece

/-- **A cookie header**: pieces with semicolons between them. -/
def cookieHeader (ps : List CookiePiece) : String :=
  String.ofList (joined [';'] (ps.map CookiePiece.text))

/-- A cookie without any blanks around it. -/
def Cookie.alone (c : Cookie) : CookiePiece :=
  .cookie ⟨"", rfl⟩ c ⟨"", rfl⟩

theorem cookieHeader_alone (c : Cookie) :
    (cookieHeader [c.alone]).toList = c.name.toList ++ '=' :: c.value.toList := by
  have htext : c.alone.text = [] ++ (c.name.toList ++ '=' :: (c.value.toList ++ [])) := rfl
  rw [cookieHeader, String.toList_ofList, List.map_singleton, joined, htext, List.nil_append, List.append_nil]

/-- The cookies in order. -/
def cookiesOf (ps : List CookiePiece) : List Cookie :=
  ps.filterMap CookiePiece.cookie?

/-- **The token in some cookies**: the value of the first one of its name, if that is not blank. -/
def firstToken? (cookies : List Cookie) : Option String :=
  match cookies.find? fun c => c.name = tokenCookie with
  | some c => if isBlankText c.value then none else some (trim c.value)
  | none => none

/-! ## Reading one piece -/

theorem semicolon_not_mem_of_isBlankText {s : String} (h : isBlankText s = true) : ';' ∉ s.toList := by
  intro hmem
  have hblank := List.all_eq_true.mp h ';' hmem
  exact absurd hblank (by decide)

/-- A piece ends at the next semicolon. -/
theorem CookiePiece.semicolon_not_mem_text (p : CookiePiece) : ';' ∉ p.text := by
  cases p with
  | cookie before c after =>
    have hbefore := semicolon_not_mem_of_isBlankText before.property
    have hafter := semicolon_not_mem_of_isBlankText after.property
    have heq : ';' ≠ '=' := by decide
    simp only [text, List.mem_append, List.mem_cons, not_or]
    exact ⟨hbefore, c.name_plain.1, heq, c.value_plain, hafter⟩
  | other text => exact text.property.1

/-- Of the blanks around a cookie nothing is left, and those at the end of its value go with them. -/
theorem Cookie.trimChars_text (c : Cookie) {before after : List Char} (hbefore : ∀ b ∈ before, isBlank b = true)
    (hafter : ∀ b ∈ after, isBlank b = true) :
    trimChars (before ++ (c.name.toList ++ '=' :: (c.value.toList ++ after))) =
      c.name.toList ++ '=' :: trimEnd c.value.toList := by
  have hequals : isBlank '=' = false := by decide
  have hflush : ∀ d, (c.name.toList ++ '=' :: (c.value.toList ++ after)).head? = some d → isBlank d = false := by
    intro d hd
    cases hname : c.name.toList with
    | nil =>
      rw [hname] at hd
      obtain rfl : '=' = d := Option.some.inj hd
      exact hequals
    | cons e es =>
      rw [hname] at hd
      have hflush := c.name_flush
      rw [hname] at hflush
      obtain rfl : e = d := Option.some.inj hd
      exact hflush
  rw [trimChars, List.dropWhile_append_of_pos hbefore, Text.dropWhile_isBlank_eq_self hflush,
    Text.trimEnd_append_cons hequals, Text.trimEnd_append_blanks hafter]

/-- **A cookie is found again** between its blanks, and nothing is found in a piece that is none. -/
theorem readCookie?_text (p : CookiePiece) :
    readCookie? p.text = p.cookie?.map fun c => (c.name.toList, trimEnd c.value.toList) := by
  cases p with
  | cookie before c after =>
    have htrim := c.trimChars_text (List.all_eq_true.mp before.property) (List.all_eq_true.mp after.property)
    rw [readCookie?, CookiePiece.text, htrim, Text.cutFirst?_append_cons c.name_plain.2]
    rfl
  | other text =>
    have hplain : '=' ∉ trimChars text.val.toList := fun h => text.property.2 (Text.mem_of_mem_trimChars h)
    exact Text.cutFirst?_eq_none_iff.mpr hplain

/-! ## Reading the header -/

/-- The cookies are read in order, each up to the blanks behind its value. -/
theorem filterMap_readCookie? (ps : List CookiePiece) :
    (pieces ';' (cookieHeader ps).toList).filterMap readCookie? =
      (cookiesOf ps).map fun c => (c.name.toList, trimEnd c.value.toList) := by
  rw [cookieHeader, String.toList_ofList]
  cases ps with
  | nil => rfl
  | cons p ps =>
    have hne : (p :: ps).map CookiePiece.text ≠ [] := List.cons_ne_nil _ _
    have hplain : ∀ t ∈ (p :: ps).map CookiePiece.text, ';' ∉ t := by
      rw [List.forall_mem_map]
      exact fun q _ => q.semicolon_not_mem_text
    rw [Text.pieces_joined hne hplain, cookiesOf, List.filterMap_map, List.map_filterMap]
    exact List.filterMap_congr fun q _ => readCookie?_text q

theorem trimmed?_eq (s : String) : trimmed? s = if isBlankText s then none else some (trim s) := by
  simp only [trimmed?, Text.trim_eq_empty_iff]

/-- Blanks at the end of a value are trimmed in any case. -/
theorem trimmed?_trimEnd (s : String) : trimmed? (String.ofList (trimEnd s.toList)) = trimmed? s := by
  have htrim : trim (String.ofList (trimEnd s.toList)) = trim s := by
    rw [trim, String.toList_ofList, Text.trimChars_trimEnd]
    rfl
  simp only [trimmed?, htrim]

/-- **The token of a header** is the token in its cookies. -/
theorem tokenOfCookies?_cookieHeader (ps : List CookiePiece) :
    tokenOfCookies? (cookieHeader ps) = firstToken? (cookiesOf ps) := by
  have hnamed : ((fun q : List Char × List Char => q.1 == tokenCookie.toList) ∘
      fun c : Cookie => (c.name.toList, trimEnd c.value.toList)) = fun c => decide (c.name = tokenCookie) := by
    funext c
    show (c.name.toList == tokenCookie.toList) = decide (c.name = tokenCookie)
    rw [Bool.eq_iff_iff, beq_iff_eq, decide_eq_true_iff, String.toList_inj]
  rw [tokenOfCookies?, filterMap_readCookie?, List.find?_map, hnamed, firstToken?]
  cases (cookiesOf ps).find? fun c => c.name = tokenCookie with
  | none => rfl
  | some c =>
    show trimmed? (String.ofList (trimEnd c.value.toList)) = _
    rw [trimmed?_trimEnd, trimmed?_eq]

/-- **The token is read back** from the cookie that is made of it. -/
theorem tokenOfCookies?_cookie {token : String} (hfull : isBlankText token = false) (hplain : ';' ∉ token.toList) :
    tokenOfCookies? ("JWT=" ++ trim token) = some (trim token) := by
  have hvalue : ';' ∉ (trim token).toList := by
    rw [trim, String.toList_ofList]
    exact fun hmem => hplain (Text.mem_of_mem_trimChars hmem)
  let made : Cookie := ⟨tokenCookie, trim token, by decide, by decide, hvalue⟩
  have hname : "JWT=".toList = tokenCookie.toList ++ ['='] := by decide +kernel
  have hheader : "JWT=" ++ trim token = cookieHeader [made.alone] := by
    rw [← String.toList_inj, String.toList_append, hname, cookieHeader_alone, List.append_assoc, List.singleton_append]
  have hfirst : firstToken? (cookiesOf [made.alone]) =
      if isBlankText made.value then none else some (trim made.value) := rfl
  rw [hheader, tokenOfCookies?_cookieHeader, hfirst, Text.isBlankText_trim, hfull, Text.trim_trim]
  rfl

/-- **The token is in the first cookie of its name.**  Of a header of cookies, with any blanks around them and any texts
among them that are no cookies, the value of the first cookie of that name is the token, without the blanks around it,
if it is not blank; else there is none.  Headers with the same cookies have the same token.  And a token without
semicolons that is not blank is read back from the cookie that a client is given for it, which it is given exactly if the
bytes of the token are those of a text and nothing is wrong with the user's own line. -/
theorem first_token_cookie_counts :
    (∀ ps : List CookiePiece, tokenOfCookies? (cookieHeader ps) =
      match (cookiesOf ps).find? fun c => c.name = tokenCookie with
      | some c => if isBlankText c.value then none else some (trim c.value)
      | none => none) ∧
      (∀ ps qs : List CookiePiece, cookiesOf ps = cookiesOf qs →
        tokenOfCookies? (cookieHeader ps) = tokenOfCookies? (cookieHeader qs)) ∧
      ∀ token, isBlankText token = false → ';' ∉ token.toList →
        tokenOfCookies? ("JWT=" ++ trim token) = some (trim token) ∧
          ∀ (o : Options) (headers : List Header), o.token = some token →
            (o.defaultHeaders = .ok headers ↔
              Header.IsText (Text.Utf8.encode (trimChars token.toList)) ∧
                ∃ extras, Options.optionalHeader Header.read o.header = .ok extras ∧
                  headers = Options.ownHeaders ++ [⟨"cookie", "JWT=" ++ trim token⟩] ++ extras) := by
  refine ⟨fun ps => tokenOfCookies?_cookieHeader ps, ?_, ?_⟩
  · intro ps qs hsame
    rw [tokenOfCookies?_cookieHeader, tokenOfCookies?_cookieHeader, hsame]
  · intro token hfull hplain
    refine ⟨tokenOfCookies?_cookie hfull hplain, ?_⟩
    intro o headers htoken
    rw [Options.defaultHeaders_eq_ok_iff, htoken]
    simp only [Options.optionalHeader_eq_ok_iff hfull, Header.cookie_eq_ok_iff]
    constructor
    · rintro ⟨_, extras, ⟨_, ⟨htext, rfl⟩, rfl⟩, hextras, rfl⟩
      exact ⟨htext, extras, hextras, rfl⟩
    · rintro ⟨htext, extras, hextras, rfl⟩
      exact ⟨_, extras, ⟨_, ⟨htext, rfl⟩, rfl⟩, hextras, rfl⟩

/-- Of two cookies with tokens, with another cookie and a piece without an equals sign before them, the first one counts,
and its value has an equals sign of its own. -/
theorem first_token_cookie_counts_with_blanks :
    let blank : {s : String // isBlankText s = true} := ⟨" ", rfl⟩
    let none : {s : String // isBlankText s = true} := ⟨"", rfl⟩
    let theme : Cookie := ⟨"theme", "dark", by decide, by decide, by decide⟩
    let first : Cookie := ⟨"JWT", " a=b", by decide, by decide, by decide⟩
    let later : Cookie := ⟨"JWT", "c", by decide, by decide, by decide⟩
    let ps : List CookiePiece :=
      [.cookie none theme none, .other ⟨" junk", by decide⟩, .cookie blank first blank, .cookie blank later none]
    cookieHeader ps = "theme=dark; junk; JWT= a=b ; JWT=c" ∧ tokenOfCookies? (cookieHeader ps) = some "a=b" ∧
      isBlankText " t" = false ∧ ';' ∉ " t".toList ∧ tokenOfCookies? ("JWT=" ++ trim " t") = some (trim " t") := by
  intro blank none theme first later ps
  obtain ⟨hheaders, -, hback⟩ := first_token_cookie_counts
  have hfull : isBlankText " t" = false := by decide
  have hplain : ';' ∉ " t".toList := by decide
  refine ⟨by decide +kernel, ?_, hfull, hplain, (hback " t" hfull hplain).1⟩
  rw [hheaders ps]
  decide +kernel

end PlanBrowser.Identity

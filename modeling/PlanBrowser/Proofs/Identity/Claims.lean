import PlanBrowser.Identity.Token
import PlanBrowser.Proofs.Identity.Base64
import PlanBrowser.Proofs.Json.Follow
import PlanBrowser.Proofs.Json.Integer
import PlanBrowser.Proofs.Json.Member
import PlanBrowser.Proofs.Text.Blank
import PlanBrowser.Proofs.Text.Utf8

/-!
# What a token says

The second piece of a token is the text of its claims, in letters.  Of the claims two are looked at, and of several claims
of one name the last one counts: the user name, if it is a text, and the time of expiry, if it is the plain numeral of an
integer that a signed word holds.  A time of expiry that is written in another way is not seen.

* `Identity.Carries`, `Identity.carries_tokenOf` — **the text that a token carries**, and a token made for a text;
* `Identity.IsClaims` — a text of claims that a reader accepts;
* `Identity.userIn?`, `Identity.ExpiredAt` — the user whom claims name, and claims that are seen to have expired;
* `Identity.usernameOf?_of_expired`, `Identity.usernameOf?_of_not_expired` — **the user whom a token names**.
-/

namespace PlanBrowser.Identity

open PlanBrowser.Text PlanBrowser.Json

/-! ## The text that a token carries -/

/-- A piece without the equals signs that fill it up. -/
def unfilled (payload : List Char) : List Char :=
  (payload.reverse.dropWhile (· == '=')).reverse

/-- **The token carries the text**: its second piece is the text in letters, perhaps filled up. -/
def Carries (token : String) (text : List Char) : Prop :=
  ∃ first payload rest, pieces '.' token.toList = first :: payload :: rest ∧
    Base64.decode? .url (unfilled payload) = some (Utf8.encode text)

theorem unfilled_append_equals {letters : List Char} (h : ∀ c ∈ letters, c ≠ '=') (filling : Nat) :
    unfilled (letters ++ List.replicate filling '=') = letters := by
  have hequals : ∀ c ∈ List.replicate filling '=', (c == '=') = true := by
    intro c hc
    rw [List.eq_of_mem_replicate hc]
    rfl
  have hstop : letters.reverse.dropWhile (· == '=') = letters.reverse := by
    rw [List.dropWhile_eq_self_iff]
    intro hpos
    have hmem : letters.reverse[0] ∈ letters := List.mem_reverse.mp (List.getElem_mem hpos)
    simpa using h _ hmem
  rw [unfilled, List.reverse_append, List.reverse_replicate, List.dropWhile_append_of_pos hequals, hstop,
    List.reverse_reverse]

/-- The first piece, the letters of a text, perhaps filled up, and what may follow them. -/
def tokenOf (first text : List Char) (filling : Nat) (rest : List Char) : String :=
  String.ofList (first ++ '.' :: (Base64.encode .url (Utf8.encode text) ++ List.replicate filling '=' ++ rest))

/-- **A token carries the text that it was made for.** -/
theorem carries_tokenOf {first rest : List Char} (text : List Char) (filling : Nat) (hfirst : '.' ∉ first)
    (hrest : ∀ c, rest.head? = some c → c = '.') : Carries (tokenOf first text filling rest) text := by
  let letters := Base64.encode .url (Utf8.encode text)
  let payload := letters ++ List.replicate filling '='
  have hletters : ∀ c ∈ letters, c ≠ '.' ∧ c ≠ '=' := fun c => Base64.url_of_mem_encode
  have hdot : '.' ∉ payload := by
    intro hmem
    obtain hmem | hmem := List.mem_append.mp hmem
    · exact (hletters _ hmem).1 rfl
    · exact absurd (List.eq_of_mem_replicate hmem) (by decide)
  have hpayload : ∃ more, pieces '.' (payload ++ rest) = payload :: more := by
    cases rest with
    | nil => exact ⟨[], by rw [List.append_nil, pieces_of_not_mem hdot]⟩
    | cons c rest =>
      obtain rfl := hrest c rfl
      exact ⟨pieces '.' rest, pieces_append_cons hdot rest⟩
  obtain ⟨more, hmore⟩ := hpayload
  refine ⟨first, payload, more, ?_, ?_⟩
  · rw [tokenOf, String.toList_ofList, pieces_append_cons hfirst, hmore]
  · rw [unfilled_append_equals (fun c hc => (hletters c hc).2), Base64.decode?_encode]

theorem claims?_of_carries {token : String} {text : List Char} (h : Carries token text) :
    claims? token.toList = (readAll readValue (text.map some)).toOption := by
  obtain ⟨first, payload, rest, hpieces, hdecode⟩ := h
  have hdecode' : Base64.decode? .url (payload.reverse.dropWhile (· == '=')).reverse = some (Utf8.encode text) :=
    hdecode
  rw [claims?, hpieces]
  simp only [hdecode', sourceOfBytes, Utf8.decode_encode]

/-! ## Claims -/

/-- **A text of claims**: an object that nests no deeper than brackets may, without a number that exceeds every double. -/
structure IsClaims (text : List Char) (ms : List (String × Written)) : Prop where
  spells : SpellsDocument text (.object ms)
  nesting : (Written.object ms).nesting ≤ maxDepth
  numbers : (Written.object ms).value?.isSome = true

theorem IsClaims.exists_claims? {token : String} {text : List Char} {ms : List (String × Written)}
    (h : IsClaims text ms) (hcarries : Carries token text) :
    ∃ claims, claims? token.toList = some claims ∧ (Written.object ms).value? = some claims := by
  obtain ⟨claims, hclaims⟩ := Option.isSome_iff_exists.mp h.numbers
  have hread : readAll readValue (text.map some) = .ok claims :=
    ((reads_value maxDepth).readAll h.spells claims).mpr ⟨h.nesting, hclaims⟩
  refine ⟨claims, ?_, hclaims⟩
  rw [claims?_of_carries hcarries, hread]
  rfl

/-- A token whose text of claims is not accepted has no claims. -/
theorem claims?_of_not_isClaims {token : String} {text : List Char} {ms : List (String × Written)}
    (hspells : SpellsDocument text (.object ms)) (h : ¬ IsClaims text ms) (hcarries : Carries token text) :
    claims? token.toList = none := by
  rw [claims?_of_carries hcarries]
  cases hread : readAll readValue (text.map some) with
  | error _ => rfl
  | ok claims =>
    obtain ⟨hnesting, hvalue⟩ := ((reads_value maxDepth).readAll hspells claims).mp hread
    exact absurd ⟨hspells, hnesting, by rw [hvalue]; rfl⟩ h

/-- **The user whom some claims name**: a text that is not blank, without the blanks around it. -/
def userIn? (ms : List (String × Written)) : Option String :=
  match Written.lastOf? "username" ms with
  | some (.string s) => trimmed? s
  | _ => none

/-- **The claims are seen to have expired**: the time of expiry is a plain numeral, of an integer that a signed word
holds, and it has come. -/
def ExpiredAt (now : Int) (ms : List (String × Written)) : Prop :=
  ∃ time : Int, Written.lastOf? "exp" ms = some (.number (.integer time)) ∧ -halfWord ≤ time ∧ time < halfWord ∧
    time ≤ now

section Claims

variable {ms : List (String × Written)} {claims : Json} (h : (Written.object ms).value? = some claims)
include h

theorem textClaim?_eq (name : String) :
    textClaim? name claims =
      match Written.lastOf? name ms with
      | some (.string s) => some s
      | _ => none := by
  rw [textClaim?, Written.member?_of_value? h]
  cases Written.lastOf? name ms with
  | none => rfl
  | some v =>
    cases v with
    | number x => cases hx : x.number <;> simp [Written.value?, hx, Except.toOption, string?]
    | list vs => cases hvs : Written.values? vs <;> simp [Written.value?, hvs, string?]
    | object ms => cases hms : Written.entries? ms <;> simp [Written.value?, hms, string?]
    | _ => rfl

theorem wholeClaim?_eq_some_iff (name : String) (k : Int) :
    wholeClaim? name claims = some k ↔
      Written.lastOf? name ms = some (.number (.integer k)) ∧ -halfWord ≤ k ∧ k < halfWord := by
  have hnumber : wholeClaim? name claims = some k ↔
      ∃ n, claims.member? name = some (.number n) ∧ n.signedWord? = some k := by
    rw [wholeClaim?]
    split
    · next n hn => simp [hn]
    · next hnone =>
      simp only [reduceCtorEq, false_iff]
      rintro ⟨n, hn, -⟩
      exact hnone n hn
  rw [hnumber, Written.member?_of_value? h]
  simp only [Option.bind_eq_some_iff, Written.value?_eq_number]
  constructor
  · rintro ⟨n, ⟨v, hv, x, rfl, hx⟩, hk⟩
    obtain ⟨rfl, hword⟩ := (x.signedWord_iff k).mp ⟨n, hx, hk⟩
    exact ⟨hv, hword⟩
  · rintro ⟨hv, hword⟩
    obtain ⟨n, hn, hk⟩ := ((Numeral.integer k).signedWord_iff k).mpr ⟨rfl, hword⟩
    exact ⟨n, ⟨_, hv, _, rfl, hn⟩, hk⟩

theorem hasExpired_iff (now : Int) : hasExpired claims now = true ↔ ExpiredAt now ms := by
  have htime : hasExpired claims now = true ↔ ∃ time, wholeClaim? "exp" claims = some time ∧ time ≤ now := by
    rw [hasExpired]
    cases wholeClaim? "exp" claims <;> simp
  simp only [htime, wholeClaim?_eq_some_iff h, ExpiredAt, and_assoc]

theorem userIn?_eq : (textClaim? "username" claims).bind trimmed? = userIn? ms := by
  rw [textClaim?_eq h, userIn?]
  split
  · rw [Option.bind_some]
  · rfl

end Claims

/-! ## The user whom a token names -/

section User

variable {token : String} {text : List Char} {ms : List (String × Written)} {now : Int}

/-- An expired token names nobody. -/
theorem usernameOf?_of_expired (hcarries : Carries token text) (hclaims : IsClaims text ms)
    (hexpired : ExpiredAt now ms) : usernameOf? token now = none := by
  obtain ⟨claims, hread, hvalue⟩ := hclaims.exists_claims? hcarries
  rw [usernameOf?, hread]
  exact if_pos ((hasExpired_iff hvalue now).mpr hexpired)

/-- **Any other token names the user of its claims.** -/
theorem usernameOf?_of_not_expired (hcarries : Carries token text) (hclaims : IsClaims text ms)
    (hexpired : ¬ ExpiredAt now ms) : usernameOf? token now = userIn? ms := by
  obtain ⟨claims, hread, hvalue⟩ := hclaims.exists_claims? hcarries
  rw [usernameOf?, hread]
  show (if hasExpired claims now then none else (textClaim? "username" claims).bind trimmed?) = _
  rw [if_neg fun h => hexpired ((hasExpired_iff hvalue now).mp h), userIn?_eq hvalue]

end User

/-! ## The acting user -/

theorem trimmed?_of_blank {s : String} (h : isBlankText s = true) : trimmed? s = none := by
  rw [trimmed?]
  exact if_pos ((trim_eq_empty_iff s).mpr h)

theorem trimmed?_of_not_blank {s : String} (h : isBlankText s = false) : trimmed? s = some (trim s) := by
  have hne : trim s ≠ "" := by
    rw [Ne, trim_eq_empty_iff, h]
    exact Bool.false_ne_true
  rw [trimmed?]
  exact if_neg hne

/-- A name that is left of a text is not empty, and has no blank at either end. -/
theorem isTidy_of_trimmed? {s name : String} (h : trimmed? s = some name) : name ≠ "" ∧ IsTidy name := by
  rw [trimmed?] at h
  split at h
  · cases h
  · next hne =>
    cases h
    exact ⟨hne, isTidy_trim s⟩

theorem isTidy_of_usernameOf? {token name : String} {now : Int} (h : usernameOf? token now = some name) :
    name ≠ "" ∧ IsTidy name := by
  rw [usernameOf?] at h
  split at h
  · cases h
  · split at h
    · cases h
    · obtain ⟨s, -, hs⟩ := Option.bind_eq_some_iff.mp h
      exact isTidy_of_trimmed? hs

theorem isTidy_guest : guest ≠ "" ∧ IsTidy guest := by
  refine ⟨by decide, ?_, ?_⟩ <;>
  · intro c hc
    cases hc
    rfl

/-- A user who is named explicitly is the one who acts. -/
theorem actingUser_of_named {name : String} (h : isBlankText name = false) (token : Option String) (now : Int) :
    actingUser (some name) token now = trim name := by
  rw [actingUser, Option.bind_some, trimmed?_of_not_blank h]

/-- If nobody is named explicitly, the token tells who acts. -/
theorem actingUser_of_not_named {explicit : Option String} (h : ∀ s, explicit = some s → isBlankText s = true)
    (token : Option String) (now : Int) :
    actingUser explicit token now = (token.bind (usernameOf? · now)).getD guest := by
  have hnone : explicit.bind trimmed? = none := by
    cases explicit with
    | none => rfl
    | some s => rw [Option.bind_some, trimmed?_of_blank (h s rfl)]
  rw [actingUser, hnone]

/-- **The acting user has a name**, with no blank at either end. -/
theorem isTidy_actingUser (explicit token : Option String) (now : Int) :
    actingUser explicit token now ≠ "" ∧ IsTidy (actingUser explicit token now) := by
  rw [actingUser]
  split
  · next name hname =>
    obtain ⟨s, -, hs⟩ := Option.bind_eq_some_iff.mp hname
    exact isTidy_of_trimmed? hs
  · cases hname : token.bind (usernameOf? · now) with
    | none => exact isTidy_guest
    | some name =>
      obtain ⟨t, -, ht⟩ := Option.bind_eq_some_iff.mp hname
      exact isTidy_of_usernameOf? ht

end PlanBrowser.Identity

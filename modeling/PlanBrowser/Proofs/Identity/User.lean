import PlanBrowser.Proofs.Identity.Claims

/-!
# The user of a token

A token is made for a user and perhaps a time of expiry: its claims may have other members, any layout and any spelling of
the texts, its letters may be filled up with equals signs, and nothing is asked of its other pieces.  It names its user
until the time has come, and nobody from then on.

* `Identity.IsClaimsOf` — claims that are made for a user and a time;
* `Identity.usernameOf?_of_past`, `Identity.usernameOf?_of_blank` — when a token names nobody;
* `Identity.token_names_user` — **a token names the user that it was made for**, and everyone who acts has a name.
-/

namespace PlanBrowser.Identity

open PlanBrowser.Text PlanBrowser.Json

/-- **Claims that are made for a user**, with a time of expiry or without one. -/
structure IsClaimsOf (user : String) (expiry : Option Int) (text : List Char) (ms : List (String × Written)) : Prop
    extends IsClaims text ms where
  names : Written.lastOf? "username" ms = some (.string user)
  expires : Written.lastOf? "exp" ms = expiry.map fun time => .number (.integer time)
  isWord : ∀ time, expiry = some time → -halfWord ≤ time ∧ time < halfWord

section Made

variable {user : String} {expiry : Option Int} {text : List Char} {ms : List (String × Written)}

theorem IsClaimsOf.userIn?_eq (h : IsClaimsOf user expiry text ms) : userIn? ms = trimmed? user := by
  rw [userIn?, h.names]

theorem IsClaimsOf.expiredAt_iff (h : IsClaimsOf user expiry text ms) (now : Int) :
    ExpiredAt now ms ↔ ∃ time, expiry = some time ∧ time ≤ now := by
  constructor
  · rintro ⟨time, htime, -, -, hle⟩
    rw [h.expires, Option.map_eq_some_iff] at htime
    obtain ⟨time', htime', heq⟩ := htime
    obtain rfl : time' = time := Numeral.integer_inj.mp (Written.number.inj heq)
    exact ⟨time', htime', hle⟩
  · rintro ⟨time, rfl, hle⟩
    obtain ⟨hlow, hhigh⟩ := h.isWord time rfl
    exact ⟨time, h.expires, hlow, hhigh, hle⟩

variable {token : String} {now : Int} (h : IsClaimsOf user expiry text ms) (hcarries : Carries token text)
include h hcarries

/-- A token names nobody from its time of expiry on. -/
theorem usernameOf?_of_past {time : Int} (htime : expiry = some time) (hle : time ≤ now) :
    usernameOf? token now = none :=
  usernameOf?_of_expired hcarries h.toIsClaims ((h.expiredAt_iff now).mpr ⟨time, htime, hle⟩)

/-- A blank name is no name. -/
theorem usernameOf?_of_blank (hblank : isBlankText user = true) : usernameOf? token now = none := by
  by_cases hexpired : ExpiredAt now ms
  · exact usernameOf?_of_expired hcarries h.toIsClaims hexpired
  · rw [usernameOf?_of_not_expired hcarries h.toIsClaims hexpired, h.userIn?_eq, trimmed?_of_blank hblank]

/-- A token names its user before its time of expiry. -/
theorem usernameOf?_of_named (hnamed : isBlankText user = false) (hbefore : ∀ time, expiry = some time → now < time) :
    usernameOf? token now = some (trim user) := by
  have hexpired : ¬ ExpiredAt now ms := by
    rw [h.expiredAt_iff]
    rintro ⟨time, htime, hle⟩
    exact absurd (hbefore time htime) (Int.not_lt.mpr hle)
  rw [usernameOf?_of_not_expired hcarries h.toIsClaims hexpired, h.userIn?_eq, trimmed?_of_not_blank hnamed]

end Made

/-- **A token names the user that it was made for**, until it expires, and unless the name is blank.  Whatever is given for a
name and for a token, everyone who acts has a name with no blank at its ends: the explicit one, else that of the token, else
that of a guest. -/
theorem token_names_user {user : String} {expiry : Option Int} {first text rest : List Char}
    {ms : List (String × Written)} (h : IsClaimsOf user expiry text ms) (hfirst : '.' ∉ first)
    (hrest : ∀ c, rest.head? = some c → c = '.') (filling : Nat) (now : Int) :
    (isBlankText user = false ∧ (∀ time, expiry = some time → now < time) →
      usernameOf? (tokenOf first text filling rest) now = some (trim user)) ∧
    (isBlankText user = true ∨ (∃ time, expiry = some time ∧ time ≤ now) →
      usernameOf? (tokenOf first text filling rest) now = none) ∧
    ∀ (explicit token : Option String) (now' : Int),
      actingUser explicit token now' ≠ "" ∧ IsTidy (actingUser explicit token now') ∧
      (∀ name, explicit = some name → isBlankText name = false → actingUser explicit token now' = trim name) ∧
      ((∀ name, explicit = some name → isBlankText name = true) →
        actingUser explicit token now' = (token.bind (usernameOf? · now')).getD guest) := by
  have hcarries : Carries (tokenOf first text filling rest) text := carries_tokenOf text filling hfirst hrest
  refine ⟨?_, ?_, ?_⟩
  · rintro ⟨hnamed, hbefore⟩
    exact usernameOf?_of_named h hcarries hnamed hbefore
  · rintro (hblank | ⟨time, htime, hle⟩)
    · exact usernameOf?_of_blank h hcarries hblank
    · exact usernameOf?_of_past h hcarries htime hle
  · intro explicit token now'
    obtain ⟨hne, htidy⟩ := isTidy_actingUser explicit token now'
    refine ⟨hne, htidy, ?_, fun hblank => actingUser_of_not_named hblank token now'⟩
    rintro name rfl hnamed
    exact actingUser_of_named hnamed token now'

/-- Claims with a member of another name, and with a name between blanks that needs two bytes for a character. -/
def zoe : List (String × Written) :=
  [("sub", .list [.number (.plain 7), .null]), ("exp", .number (.integer 2000)), ("username", .string " zoë\n")]

theorem isClaimsOf_zoe : IsClaimsOf " zoë\n" (some 2000) (Written.object zoe).compact zoe where
  spells := Written.spellsDocument_compact _
  nesting := by decide
  numbers := by decide +kernel
  names := rfl
  expires := rfl
  isWord := by
    rintro time ⟨⟩
    decide

theorem token_names_user_zoe :
    usernameOf? (tokenOf "e30".toList (Written.object zoe).compact 2 ".sig".toList) 1999 = some "zoë" ∧
      usernameOf? (tokenOf "e30".toList (Written.object zoe).compact 2 ".sig".toList) 2000 = none ∧
      actingUser (some "  ") (some (tokenOf "e30".toList (Written.object zoe).compact 2 ".sig".toList)) 2000 = "guest" := by
  have hrest : ∀ c, ".sig".toList.head? = some c → c = '.' := by
    rintro c ⟨⟩
    rfl
  have hbefore := (token_names_user isClaimsOf_zoe (by decide : '.' ∉ "e30".toList) hrest 2 1999).1
  have hafter := (token_names_user isClaimsOf_zoe (by decide : '.' ∉ "e30".toList) hrest 2 2000).2
  have hnobody := hafter.1 (.inr ⟨2000, rfl, by decide⟩)
  refine ⟨hbefore ⟨by decide, ?_⟩, hnobody, ?_⟩
  · rintro time ⟨⟩
    decide
  · rw [(hafter.2 (some "  ") _ 2000).2.2.2, Option.bind_some, hnobody]
    · rfl
    · rintro name ⟨⟩
      decide

end PlanBrowser.Identity

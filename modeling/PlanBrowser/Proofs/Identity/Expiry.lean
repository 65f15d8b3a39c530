import Mathlib.Tactic.NormNum
import PlanBrowser.Proofs.Identity.Claims

/-!
# Which tokens are seen to have expired

A time of expiry is a number, and a number that has come may be written in many ways: with a fraction, with an exponent,
as a negative zero, or as an integer that no signed word holds.  Only the plain numeral of an integer that a signed word
holds is looked at.  With any other numeral the token goes on to name its user after its time.

* `Identity.IsPlainTime` — a time that is written in the way that is looked at;
* `Identity.expired_iff_plain` — **a token is absent after its time just if the time is plain**, or if it names nobody;
* `Identity.fraction_of_second_is_overlooked` — a token that names its user after its time.
-/

namespace PlanBrowser.Identity

open PlanBrowser.Text PlanBrowser.Json

/-- **A plain time**: the plain numeral of an integer that is not below all signed words. -/
def IsPlainTime (x : Numeral) : Prop :=
  ∃ time : Int, x = .integer time ∧ -halfWord ≤ time

section Past

variable {token : String} {text : List Char} {ms : List (String × Written)} {x : Numeral} {now : Int}

/-- After their time, claims are seen to have expired just if the time is plain. -/
theorem expiredAt_iff_isPlainTime (htime : Written.lastOf? "exp" ms = some (.number x)) (hpast : x.value ≤ now)
    (hnow : now < halfWord) : ExpiredAt now ms ↔ IsPlainTime x := by
  constructor
  · rintro ⟨time, htime', hlow, -, -⟩
    rw [htime, Option.some_inj] at htime'
    exact ⟨time, Written.number.inj htime', hlow⟩
  · rintro ⟨time, rfl, hlow⟩
    have hle : time ≤ now := by
      rw [Numeral.value_integer] at hpast
      exact Int.cast_le.mp hpast
    exact ⟨time, htime, hlow, Int.lt_of_le_of_lt hle hnow, hle⟩

/-- A token without accepted claims names nobody. -/
theorem usernameOf?_of_not_isClaims (hcarries : Carries token text) (hspells : SpellsDocument text (.object ms))
    (h : ¬ IsClaims text ms) : usernameOf? token now = none := by
  rw [usernameOf?, claims?_of_not_isClaims hspells h hcarries]

/-- **After its time, a token is absent just if the time is plain**, or if its claims are not accepted at all.  With any other
time it goes on to name its user, and this is the one who acts if nobody is named explicitly. -/
theorem expired_iff_plain (hcarries : Carries token text) (hspells : SpellsDocument text (.object ms))
    (htime : Written.lastOf? "exp" ms = some (.number x)) (hpast : x.value ≤ now) (hnow : now < halfWord) :
    (¬ IsClaims text ms ∨ IsPlainTime x → usernameOf? token now = none ∧
      ∀ explicit, (∀ s, explicit = some s → isBlankText s = true) → actingUser explicit (some token) now = guest) ∧
    (IsClaims text ms ∧ ¬ IsPlainTime x → usernameOf? token now = userIn? ms ∧
      ∀ explicit, (∀ s, explicit = some s → isBlankText s = true) →
        actingUser explicit (some token) now = (userIn? ms).getD guest) := by
  have hacts {name? : Option String} (hname : usernameOf? token now = name?) (explicit : Option String)
      (hblank : ∀ s, explicit = some s → isBlankText s = true) :
      actingUser explicit (some token) now = name?.getD guest := by
    rw [actingUser_of_not_named hblank, Option.bind_some, hname]
  have hexpired := expiredAt_iff_isPlainTime htime hpast hnow
  constructor
  · intro h
    have hnobody : usernameOf? token now = none := by
      by_cases hclaims : IsClaims text ms
      · exact usernameOf?_of_expired hcarries hclaims (hexpired.mpr (h.resolve_left (not_not_intro hclaims)))
      · exact usernameOf?_of_not_isClaims hcarries hspells hclaims
    exact ⟨hnobody, hacts hnobody⟩
  · rintro ⟨hclaims, hplain⟩
    have hname : usernameOf? token now = userIn? ms :=
      usernameOf?_of_not_expired hcarries hclaims (mt hexpired.mp hplain)
    exact ⟨hname, hacts hname⟩

end Past

/-! ## A token of Alice -/

/-- Claims of Alice with a time of expiry. -/
def aliceUntil (x : Numeral) : List (String × Written) :=
  [("username", .string "alice"), ("exp", .number x)]

/-- A token of Alice with a time of expiry. -/
def aliceToken (x : Numeral) : String :=
  tokenOf "e30".toList (Written.object (aliceUntil x)).compact 0 ".sig".toList

theorem carries_aliceToken (x : Numeral) : Carries (aliceToken x) (Written.object (aliceUntil x)).compact := by
  refine carries_tokenOf _ 0 (by decide) ?_
  rintro c ⟨⟩
  rfl

theorem expired_iff_plain_alice :
    usernameOf? (aliceToken (.integer 1000)) 1000 = none ∧
      actingUser (some " ") (some (aliceToken (.integer 1000))) 1000 = guest := by
  have hpast : (Numeral.integer 1000).value ≤ (1000 : Int) := by rw [Numeral.value_integer]
  obtain ⟨hnobody, hacts⟩ :=
    (expired_iff_plain (carries_aliceToken _) (Written.spellsDocument_compact _) rfl hpast (by decide)).1
      (.inr ⟨1000, rfl, by decide⟩)
  refine ⟨hnobody, hacts (some " ") ?_⟩
  rintro s ⟨⟩
  rfl

/-- The numeral `1000.5`. -/
def thousandAndHalf : Numeral :=
  ⟨false, 1000, some ⟨['5'], by decide, List.all_eq_true.mp rfl⟩, none⟩

/-- **A time with a fraction is overlooked**: the token expired at `1000.5`, and at `2000` it still names its user. -/
theorem fraction_of_second_is_overlooked :
    Carries (aliceToken thousandAndHalf) "\x7b\"username\":\"alice\",\"exp\":1000.5\x7d".toList ∧
      IsClaims "\x7b\"username\":\"alice\",\"exp\":1000.5\x7d".toList (aliceUntil thousandAndHalf) ∧
      Written.lastOf? "exp" (aliceUntil thousandAndHalf) = some (.number thousandAndHalf) ∧
      thousandAndHalf.value ≤ 2000 ∧
      usernameOf? (aliceToken thousandAndHalf) 2000 = some "alice" ∧
      actingUser none (some (aliceToken thousandAndHalf)) 2000 = "alice" := by
  have htext : "\x7b\"username\":\"alice\",\"exp\":1000.5\x7d".toList =
      (Written.object (aliceUntil thousandAndHalf)).compact := by decide +kernel
  have hclaims : IsClaims (Written.object (aliceUntil thousandAndHalf)).compact (aliceUntil thousandAndHalf) :=
    ⟨Written.spellsDocument_compact _, by decide, rfl⟩
  have hexpired : ¬ ExpiredAt 2000 (aliceUntil thousandAndHalf) := by
    rintro ⟨time, htime, -⟩
    cases congrArg Numeral.fraction (Written.number.inj (Option.some.inj htime))
  have hname : usernameOf? (aliceToken thousandAndHalf) 2000 = some "alice" :=
    usernameOf?_of_not_expired (carries_aliceToken _) hclaims hexpired
  have hvalue : thousandAndHalf.value = 2001 / 2 := by
    show (1 : ℚ) * (1000 + 5 / 10 ^ 1) * 10 ^ (0 : Int) = 2001 / 2
    norm_num
  rw [htext]
  refine ⟨carries_aliceToken _, hclaims, rfl, ?_, hname, ?_⟩
  · rw [hvalue]
    norm_num
  · rw [actingUser_of_not_named (by rintro s ⟨⟩), Option.bind_some, hname]
    rfl

end PlanBrowser.Identity

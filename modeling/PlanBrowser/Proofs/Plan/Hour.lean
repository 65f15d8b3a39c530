import PlanBrowser.Proofs.Plan.Schema
import PlanBrowser.Proofs.Text.Blank

/-!
# Times that are shown as whole hours

A time names a whole hour if it is a numeral of that hour between blanks, and if there is such an hour in a day, a clock
face is shown for it.  Every other time is shown as it was given, with its blanks.  A clock face is no numeral, so it is
shown as it is, and to show a time twice changes nothing.

* `VisitTime.Names`, `VisitTime.names_iff` — **the hour that a time names**, and that trimming the time finds its numeral;
* `VisitTime.face`, `VisitTime.not_names_face` — the face of a clock, which names no hour;
* `VisitTime.shown_of_names`, `VisitTime.shown_of_not_names` — what is shown in both cases;
* `VisitTime.shown_hours` — **times as texts and as numbers**, and that showing a time twice changes nothing.
-/

namespace PlanBrowser

namespace Text

/-- There are no blanks in a numeral. -/
theorem IsNumeral.not_blank {cs : List Char} {n : Nat} (h : IsNumeral cs n) : ∀ c ∈ cs, isBlank c = false := by
  obtain ⟨ds, -, hdigits, hcs, -⟩ := h
  have hds : ∀ c ∈ ds, isBlank c = false := fun c hc => isBlank_of_isDigit (hdigits c hc)
  rcases hcs with rfl | rfl
  · exact hds
  · exact List.forall_mem_cons.mpr ⟨rfl, hds⟩

/-- A numeral has one value. -/
theorem IsNumeral.unique {cs : List Char} {m n : Nat} (hm : IsNumeral cs m) (hn : IsNumeral cs n) : m = n := by
  have hread {k : Nat} (hk : IsNumeral cs k) (hle : k ≤ max m n) : read? (max m n + 1) cs = some k :=
    read?_eq_some_iff.mpr ⟨hk, Nat.lt_succ_of_le hle⟩
  exact Option.some.inj ((hread hm (Nat.le_max_left m n)).symm.trans (hread hn (Nat.le_max_right m n)))

/-- A numeral between blanks is found by trimming. -/
theorem IsNumeral.trimChars_eq {before numeral after : List Char} {n : Nat} (h : IsNumeral numeral n)
    (hbefore : ∀ b ∈ before, isBlank b = true) (hafter : ∀ b ∈ after, isBlank b = true) :
    trimChars (before ++ (numeral ++ after)) = numeral := by
  have htidy : trim (String.ofList numeral) = String.ofList numeral := by
    apply trim_eq_self
    · intro c hc
      rw [String.toList_ofList] at hc
      exact h.not_blank c (List.mem_of_head? hc)
    · intro c hc
      rw [String.toList_ofList] at hc
      exact h.not_blank c (List.mem_of_getLast? hc)
  rw [trim, String.toList_ofList, String.ofList_inj] at htidy
  rw [trimChars_blanks_append hbefore, trimChars_append_blanks hafter, htidy]

end Text

namespace VisitTime

open Json Text

/-- **The hour that a time names**: the time is a numeral of that hour, between blanks. -/
def Names (t : VisitTime) (h : Nat) : Prop :=
  ∃ before numeral after, t.text.toList = before ++ (numeral ++ after) ∧ (∀ b ∈ before, isBlank b = true) ∧
    (∀ b ∈ after, isBlank b = true) ∧ IsNumeral numeral h

/-- **The face of a clock** at a whole hour: two digits of the hour and none of the minutes. -/
def face (h : Nat) : String :=
  String.ofList [Nat.digitChar (h / 10), Nat.digitChar (h % 10), ':', '0', '0']

section

variable {t : VisitTime} {h : Nat}

theorem names_iff : t.Names h ↔ IsNumeral (trimChars t.text.toList) h := by
  constructor
  · rintro ⟨before, numeral, after, htext, hbefore, hafter, hnumeral⟩
    rw [htext, hnumeral.trimChars_eq hbefore hafter]
    exact hnumeral
  · intro hnumeral
    obtain ⟨before, after, htext, hbefore, hafter⟩ := exists_blanks_trimChars t.text.toList
    exact ⟨before, _, after, htext, hbefore, hafter, hnumeral⟩

/-- **The hours that are recognised**: those of a day. -/
theorem hour?_eq_some_iff : t.hour? = some h ↔ t.Names h ∧ h ≤ 24 := by
  have hread (k : Nat) : read? 256 (trimChars t.text.toList) = some k ↔ t.Names k ∧ k < 256 := by
    rw [read?_eq_some_iff, names_iff]
  rw [hour?]
  cases hcase : read? 256 (trimChars t.text.toList) with
  | none =>
    refine iff_of_false nofun ?_
    rintro ⟨hnames, hle⟩
    have hsome := (hread h).mpr ⟨hnames, by omega⟩
    rw [hcase] at hsome
    cases hsome
  | some k =>
    have hk := ((hread k).mp hcase).1
    show (if k ≤ 24 then some k else none) = some h ↔ _
    constructor
    · intro heq
      split at heq
      · next hle =>
        cases heq
        exact ⟨hk, hle⟩
      · cases heq
    · rintro ⟨hnames, hle⟩
      obtain rfl : k = h := (names_iff.mp hk).unique (names_iff.mp hnames)
      rw [if_pos hle]

/-- What is shown for an hour is the face of a clock. -/
theorem ofList_clock (hle : h ≤ 24) : String.ofList (clock h) = face h := by
  have hall : ∀ h ≤ 24, clock h = [Nat.digitChar (h / 10), Nat.digitChar (h % 10), ':', '0', '0'] := by decide
  rw [hall h hle, face]

theorem shown_of_names (hnames : t.Names h) (hle : h ≤ 24) : t.shown = face h := by
  rw [shown, hour?_eq_some_iff.mpr ⟨hnames, hle⟩]
  exact ofList_clock hle

theorem shown_of_not_names (hnot : ∀ h ≤ 24, ¬ t.Names h) : t.shown = t.text := by
  have hnone : t.hour? = none := by
    rw [Option.eq_none_iff_forall_ne_some]
    intro h hsome
    obtain ⟨hnames, hle⟩ := hour?_eq_some_iff.mp hsome
    exact hnot h hle hnames
  rw [shown, hnone]

/-- A time that names an hour has no colon. -/
theorem colon_not_mem_of_names (hnames : t.Names h) : ':' ∉ t.text.toList := by
  obtain ⟨before, numeral, after, htext, hbefore, hafter, ds, -, hdigits, hnumeral, -⟩ := hnames
  rw [htext, List.mem_append, List.mem_append, not_or, not_or]
  refine ⟨fun hmem => absurd (hbefore _ hmem) (by decide), ?_, fun hmem => absurd (hafter _ hmem) (by decide)⟩
  have hds : ':' ∉ ds := fun hmem => absurd (hdigits _ hmem) (by decide)
  rcases hnumeral with rfl | rfl
  · exact hds
  · exact List.not_mem_cons_of_ne_of_not_mem (by decide) hds

/-- **The face of a clock names no hour.** -/
theorem not_names_face (k : Nat) : ¬ Names ⟨face k⟩ h := by
  intro hnames
  apply colon_not_mem_of_names hnames
  rw [face, String.toList_ofList]
  simp

/-- Either a time names an hour of a day, or it is shown as it was given. -/
theorem shown_cases (t : VisitTime) : (∃ h ≤ 24, t.Names h ∧ t.shown = face h) ∨ (∀ h ≤ 24, ¬ t.Names h) ∧ t.shown = t.text := by
  by_cases hex : ∃ h ≤ 24, t.Names h
  · obtain ⟨h, hle, hnames⟩ := hex
    exact .inl ⟨h, hle, hnames, shown_of_names hnames hle⟩
  · have hnot : ∀ h ≤ 24, ¬ t.Names h := fun h hle hnames => hex ⟨h, hle, hnames⟩
    exact .inr ⟨hnot, shown_of_not_names hnot⟩

theorem shown_face (k : Nat) : shown ⟨face k⟩ = face k :=
  shown_of_not_names fun _ _ => not_names_face k

theorem shown_shown (t : VisitTime) : shown ⟨t.shown⟩ = t.shown := by
  rcases shown_cases t with ⟨h, -, -, hshown⟩ | ⟨-, hshown⟩
  · rw [hshown, shown_face]
  · rw [hshown, hshown]

theorem face_inj {m n : Nat} (hm : m ≤ 24) (hn : n ≤ 24) (heq : face m = face n) : m = n := by
  have hall : ∀ m ≤ 24, ∀ n ≤ 24, Nat.digitChar (m / 10) = Nat.digitChar (n / 10) →
      Nat.digitChar (m % 10) = Nat.digitChar (n % 10) → m = n := by decide
  rw [face, face, String.ofList_inj, List.cons.injEq, List.cons.injEq] at heq
  exact hall m hm n hn heq.1 heq.2.1

/-- **When a clock face is shown**: for its hour, and for a time that is one. -/
theorem shown_eq_face_iff (hle : h ≤ 24) : t.shown = face h ↔ t.Names h ∨ t.text = face h := by
  constructor
  · intro heq
    rcases shown_cases t with ⟨k, hk, hnames, hshown⟩ | ⟨-, hshown⟩
    · obtain rfl : k = h := face_inj hk hle (hshown.symm.trans heq)
      exact .inl hnames
    · exact .inr (hshown.symm.trans heq)
  · rintro (hnames | htext)
    · exact shown_of_names hnames hle
    · obtain ⟨text⟩ := t
      obtain rfl : text = face h := htext
      exact shown_face h

/-! ## Times that are given as numbers -/

/-- A time that is given as a number names this number. -/
theorem names_ofNat_iff {n : Nat} : Names (ofNat n) h ↔ h = n := by
  have hself : Names (ofNat n) n :=
    ⟨[], digits n, [], by simp [ofNat, written], List.forall_mem_nil _, List.forall_mem_nil _, isNumeral_digits n⟩
  constructor
  · intro hnames
    exact (names_iff.mp hnames).unique (names_iff.mp hself)
  · rintro rfl
    exact hself

theorem shown_ofNat (n : Nat) : (ofNat n).shown = if n ≤ 24 then face n else written n := by
  split
  · next hle => exact shown_of_names (names_ofNat_iff.mpr rfl) hle
  · next hgt =>
    refine shown_of_not_names (t := ofNat n) fun h hle hnames => ?_
    rw [names_ofNat_iff] at hnames
    omega

/-- A number is shown as a clock face just if it is an hour of a day. -/
theorem exists_shown_ofNat_iff (n : Nat) : (∃ h ≤ 24, (ofNat n).shown = face h) ↔ n ≤ 24 := by
  constructor
  · rintro ⟨h, hle, hshown⟩
    rcases (shown_eq_face_iff hle).mp hshown with hnames | htext
    · rw [names_ofNat_iff] at hnames
      omega
    · have hself : Names (ofNat n) n := names_ofNat_iff.mpr rfl
      rw [show ofNat n = ⟨face h⟩ from congrArg VisitTime.mk htext] at hself
      exact absurd hself (not_names_face h)
  · intro hle
    exact ⟨n, hle, shown_of_names (names_ofNat_iff.mpr rfl) hle⟩

end

/-- **What is shown for a time.**  A time that names an hour of a day is shown as the face of a clock, and every other one as
it was given; a time that names none is a clock face only if it was given as one; and to show a time twice changes nothing.
A text of a number that a word holds is read as a time, which is shown as a clock face just if the number is an hour of a
day, and else as its digits. -/
theorem shown_hours :
    (∀ t : VisitTime,
      (∀ h ≤ 24, t.Names h → t.shown = face h) ∧ ((∀ h ≤ 24, ¬ t.Names h) → t.shown = t.text) ∧
        (∀ h ≤ 24, t.shown = face h ↔ t.Names h ∨ t.text = face h) ∧ shown ⟨t.shown⟩ = t.shown) ∧
      ∀ n < wordBound, ∀ cs, SpellsDocument cs (.number (.plain n)) →
        ∃ t, readAll read (cs.map some) = .ok t ∧ ((∃ h ≤ 24, t.shown = face h) ↔ n ≤ 24) ∧
          t.shown = if n ≤ 24 then face n else written n := by
  refine ⟨fun t => ?_, fun n hn cs hcs => ?_⟩
  · exact ⟨fun h hle hnames => shown_of_names hnames hle, shown_of_not_names, fun h hle => shown_eq_face_iff hle,
      shown_shown t⟩
  · have htold : IsTold (.number (.plain n)) (ofNat n) := .inr ⟨n, hn, rfl, rfl⟩
    exact ⟨ofNat n, ((reads maxDepth).readAll hcs _).mpr htold, exists_shown_ofNat_iff n, shown_ofNat n⟩

/-- The seventh hour with a sign, leading zeros and blanks, an hour past the day with blanks, and numbers. -/
theorem shown_hours_of_seven :
    shown ⟨"\xa0+0007\n"⟩ = "07:00" ∧ shown ⟨" 25"⟩ = " 25" ∧
      ∃ t, readAll read (sourceOf " 12") = .ok t ∧ t.shown = "12:00" := by
  have hseven : Names ⟨"\xa0+0007\n"⟩ 7 :=
    ⟨['\xa0'], "+0007".toList, ['\n'], rfl, List.all_eq_true.mp rfl, List.all_eq_true.mp rfl, "0007".toList, by decide,
      List.all_eq_true.mp rfl, .inr rfl, rfl⟩
  have hlate : ∀ h ≤ 24, ¬ Names ⟨" 25"⟩ h := by
    intro h hle hnames
    have hself : Names ⟨" 25"⟩ 25 :=
      ⟨[' '], "25".toList, [], rfl, List.all_eq_true.mp rfl, List.all_eq_true.mp rfl, "25".toList, by decide,
        List.all_eq_true.mp rfl, .inl rfl, rfl⟩
    have heq : h = 25 := (names_iff.mp hnames).unique (names_iff.mp hself)
    omega
  have htwelve : SpellsDocument " 12".toList (.number (.plain 12)) :=
    ⟨[' '], _, [], rfl, List.forall_mem_singleton.mpr rfl, gaps_nil, .number (.plain 12)⟩
  obtain ⟨t, hread, -, hshown⟩ := shown_hours.2 12 (by decide) _ htwelve
  exact ⟨(shown_hours.1 _).1 7 (by decide) hseven, (shown_hours.1 _).2.1 hlate, t, hread, hshown⟩

end VisitTime

end PlanBrowser

import Mathlib.Tactic.SplitIfs
import PlanBrowser.Proofs.Html.Marks
import PlanBrowser.Proofs.Text.Occurrence

/-!
# Reading pieces back

A written page does not say where its pieces end.  Still they can be read off it by someone who knows the markup: a
text has no marks, so it ends where the next mark is, and so does a number; and the entities in a text are read from
the front, one character for each.  So two pages that are put together in the same way are the same exactly if the same
things stand in them.

* `Html.unescapeChars` — the text that was escaped;
* `Html.unescapeChars_escapeChars`, `Html.escapeChars_inj` — **escaping loses nothing**;
* `Html.endsText` — markup that begins with a mark, so that a text ends in front of it;
* `Html.chars_cons_inj`, `Html.chars_text_inj`, `Html.chars_number_inj`, `Html.chars_flag_inj` — **when two pages that
  begin with pieces of one kind are the same**, whatever follows;
* `Html.not_prefix_chars_flag`, `Html.not_prefix_chars_markup` — what does not begin like an attribute;
* `Html.chars_text_joined` — two texts around markup that needs no escaping are one text.
-/

namespace PlanBrowser.Html

/-! ## Entities -/

/-- **The text that was escaped**: each entity is read as its character, and everything else stands for itself. -/
def unescapeChars : List Char → List Char
  | '&' :: 'a' :: 'm' :: 'p' :: ';' :: cs => '&' :: unescapeChars cs
  | '&' :: 'l' :: 't' :: ';' :: cs => '<' :: unescapeChars cs
  | '&' :: 'g' :: 't' :: ';' :: cs => '>' :: unescapeChars cs
  | '&' :: 'q' :: 'u' :: 'o' :: 't' :: ';' :: cs => '"' :: unescapeChars cs
  | '&' :: '#' :: '3' :: '9' :: ';' :: cs => '\'' :: unescapeChars cs
  | c :: cs => c :: unescapeChars cs
  | [] => []

/-- What stands for a character is read as this character, whatever follows. -/
theorem unescapeChars_entity (c : Char) (cs : List Char) :
    unescapeChars (entity c ++ cs) = c :: unescapeChars cs := by
  unfold entity
  split_ifs with hamp hopen hclose hquote hsingle
  · simp [unescapeChars, hamp]
  · simp [unescapeChars, hopen]
  · simp [unescapeChars, hclose]
  · simp [unescapeChars, hquote]
  · simp [unescapeChars, hsingle]
  · -- only an ampersand begins an entity
    simp [unescapeChars, hamp]

/-- **Escaping loses nothing.** -/
theorem unescapeChars_escapeChars (cs : List Char) : unescapeChars (escapeChars cs) = cs := by
  induction cs with
  | nil => rfl
  | cons c cs ih =>
    show unescapeChars (entity c ++ escapeChars cs) = c :: cs
    rw [unescapeChars_entity, ih]

theorem escapeChars_inj {cs ds : List Char} : escapeChars cs = escapeChars ds ↔ cs = ds := by
  constructor
  · intro h
    rw [← unescapeChars_escapeChars cs, h, unescapeChars_escapeChars]
  · rintro rfl
    rfl

/-! ## Pieces -/

/-- **Markup that begins with a mark**; a text in front of it ends there. -/
def endsText (s : String) : Bool :=
  s.toList.head?.any isMark

theorem endsText_literal (c : Char) (cs : List Char) : endsText (no_index (String.ofList (c :: cs))) = isMark c := by
  rw [endsText, String.toList_ofList, List.head?_cons, Option.any_some]

theorem isMark_quote : isMark '"' = true := rfl

theorem isMark_open : isMark '<' = true := rfl

section

variable {ps qs : List Piece}

/-- Pages that begin with the same piece. -/
theorem chars_cons_inj (p : Piece) : chars (p :: ps) = chars (p :: qs) ↔ chars ps = chars qs :=
  List.append_right_inj p.chars

/-- **Pieces without marks end at the next mark.** -/
theorem chars_unmarked_inj {p q : Piece} {s : String} (hp : ∀ c ∈ p.chars, isMark c = false)
    (hq : ∀ c ∈ q.chars, isMark c = false) (h : endsText s = true) :
    chars (p :: .markup s :: ps) = chars (q :: .markup s :: qs) ↔ p.chars = q.chars ∧ chars ps = chars qs := by
  cases hs : s.toList with
  | nil =>
    rw [endsText, hs] at h
    cases h
  | cons c cs =>
    rw [endsText, hs, List.head?_cons, Option.any_some] at h
    have hnot {r : Piece} (hr : ∀ c ∈ r.chars, isMark c = false) : c ∉ r.chars := by
      intro hmem
      rw [hr c hmem] at h
      cases h
    show p.chars ++ (s.toList ++ chars ps) = q.chars ++ (s.toList ++ chars qs) ↔ _
    rw [hs, List.cons_append, List.cons_append]
    constructor
    · intro heq
      have hprefix : p.chars ++ c :: (cs ++ chars ps) <+: q.chars ++ c :: (cs ++ chars qs) :=
        heq ▸ List.prefix_rfl
      have hfront : p.chars = q.chars := ((Text.append_cons_prefix_iff (hnot hp) (hnot hq)).mp hprefix).1
      rw [hfront, List.append_right_inj, List.cons_inj_right, List.append_right_inj] at heq
      exact ⟨hfront, heq⟩
    · rintro ⟨hfront, hrest⟩
      rw [hfront, hrest]

/-- **A text ends at the next mark.** -/
theorem chars_text_inj {a b s : String} (h : endsText s = true) :
    chars (.text a :: .markup s :: ps) = chars (.text b :: .markup s :: qs) ↔ a = b ∧ chars ps = chars qs := by
  rw [chars_unmarked_inj (fun _ => not_isMark_of_mem_escapeChars) (fun _ => not_isMark_of_mem_escapeChars) h]
  show escapeChars a.toList = escapeChars b.toList ∧ _ ↔ _
  rw [escapeChars_inj, String.toList_inj]

/-- **A number ends at the next mark.** -/
theorem chars_number_inj {m n : Nat} {s : String} (h : endsText s = true) :
    chars (number m :: .markup s :: ps) = chars (number n :: .markup s :: qs) ↔ m = n ∧ chars ps = chars qs := by
  have hdigits (n : Nat) : (number n).chars = Text.digits n := String.toList_ofList
  have hmark (n : Nat) : ∀ c ∈ (number n).chars, isMark c = false := by
    intro c hc
    rw [hdigits] at hc
    exact not_isMark_of_isDigit (Text.isDigit_of_mem_digits hc)
  rw [chars_unmarked_inj (hmark m) (hmark n) h, hdigits, hdigits]
  constructor
  · rintro ⟨hfront, hrest⟩
    exact ⟨Text.digits_inj hfront, hrest⟩
  · rintro ⟨rfl, hrest⟩
    exact ⟨rfl, hrest⟩

/-- **Whether an attribute is there** is seen, if what follows does not begin like it. -/
theorem chars_flag_inj {present present' : Bool} {s : String} (hps : ¬ s.toList <+: chars ps)
    (hqs : ¬ s.toList <+: chars qs) :
    chars (flag present s :: ps) = chars (flag present' s :: qs) ↔ present = present' ∧ chars ps = chars qs := by
  have htrue (rs : List Piece) : chars (flag true s :: rs) = s.toList ++ chars rs := rfl
  have hfalse (rs : List Piece) : chars (flag false s :: rs) = chars rs := rfl
  cases present <;> cases present'
  · simp only [hfalse, true_and]
  · rw [hfalse, htrue]
    refine ⟨fun heq => absurd ?_ hps, nofun⟩
    rw [heq]
    exact List.prefix_append _ _
  · rw [hfalse, htrue]
    refine ⟨fun heq => absurd ?_ hqs, nofun⟩
    rw [← heq]
    exact List.prefix_append _ _
  · rw [htrue, htrue, List.append_right_inj]
    exact (and_iff_right rfl).symm

/-- What follows begins with an attribute that is there or not. -/
theorem not_prefix_chars_flag {present : Bool} {front : List Char} {s : String}
    (hs : ¬ front <+: chars (.markup s :: ps)) (hps : ¬ front <+: chars ps) :
    ¬ front <+: chars (flag present s :: ps) := by
  cases present
  · exact hps
  · exact hs

/-- Markup that begins otherwise: neither of the two is a beginning of the other. -/
theorem not_prefix_chars_markup {s t : String}
    (h : s.toList.take t.toList.length ≠ t.toList.take s.toList.length) :
    ¬ s.toList <+: chars (.markup t :: ps) := by
  intro hprefix
  rw [chars_cons_markup] at hprefix
  apply h
  rcases Nat.le_total s.toList.length t.toList.length with hle | hle
  · have hst : s.toList <+: t.toList := List.prefix_of_prefix_length_le hprefix (List.prefix_append _ _) hle
    rw [List.take_of_length_le hle]
    exact List.prefix_iff_eq_take.mp hst
  · have hts : t.toList <+: s.toList := List.prefix_of_prefix_length_le (List.prefix_append _ _) hprefix hle
    rw [List.take_of_length_le hle]
    exact (List.prefix_iff_eq_take.mp hts).symm

/-- Two texts around markup that needs no escaping are one text. -/
theorem chars_text_joined (a b : String) {s : String} (h : escapeChars s.toList = s.toList) :
    chars (.text a :: .markup s :: .text b :: ps) = chars (.text (a ++ s ++ b) :: ps) := by
  have hjoined : escapeChars (a ++ s ++ b).toList =
      escapeChars a.toList ++ escapeChars s.toList ++ escapeChars b.toList := by
    rw [String.toList_append, String.toList_append]
    simp only [escapeChars, List.flatMap_append]
  rw [chars_cons_text, chars_cons_markup, chars_cons_text, chars_cons_text, hjoined, h]
  simp only [List.append_assoc]

end

end PlanBrowser.Html

import PlanBrowser.Html.Piece
import PlanBrowser.Proofs.Text.Numeral

/-!
# The marks of a page

The angle brackets and the two quotation marks tell where the tags of a page and the values of its attributes
begin and end.  An escaped text has none of them, and a number has none either; so the **marks** of a page are
those of its markup.

* `Html.isMark`, `Html.marks` — the four characters, and those of a text in order;
* `Html.not_isMark_of_mem_escapeChars` — **no escaped text has marks**;
* `Html.chars_cons_markup`, `Html.chars_cons_text`, `Html.chars_cons_number` — the characters of pieces, one by one;
* `Html.marks_cons_markup`, `Html.marks_cons_text`, `Html.marks_cons_number` — the marks of pieces, one by one.
-/

namespace PlanBrowser.Html

/-- A character that tells where a tag or the value of an attribute begins or ends. -/
def isMark (c : Char) : Bool :=
  c == '<' || c == '>' || c == '"' || c == '\''

/-- **The marks of a text**, in order. -/
def marks (cs : List Char) : List Char :=
  cs.filter isMark

/-! ## Texts without marks -/

/-- What stands for a character has no marks: an entity has none, and what stands for itself is none. -/
theorem not_isMark_of_mem_entity (c : Char) : ∀ d ∈ entity c, isMark d = false := by
  unfold entity
  repeat' split
  all_goals simp_all [isMark]

/-- **No escaped text has marks.** -/
theorem not_isMark_of_mem_escapeChars {c : Char} {cs : List Char} (h : c ∈ escapeChars cs) :
    isMark c = false := by
  obtain ⟨d, -, hd⟩ := List.mem_flatMap.mp h
  exact not_isMark_of_mem_entity d c hd

theorem not_isMark_of_isDigit {c : Char} (h : c.isDigit = true) : isMark c = false := by
  have hne : ∀ d : Char, d.isDigit = false → c ≠ d := by
    rintro d hd rfl
    exact absurd h (by simp [hd])
  simp [isMark, hne '<' (by decide), hne '>' (by decide), hne '"' (by decide), hne '\'' (by decide)]

theorem marks_eq_nil {cs : List Char} (h : ∀ c ∈ cs, isMark c = false) : marks cs = [] :=
  List.filter_eq_nil_iff.mpr fun c hc => by simp [h c hc]

/-! ## Written pieces -/

/-- The characters of a text that stands in a template. -/
theorem toList_literal (cs : List Char) : (no_index (String.ofList cs)).toList = cs :=
  String.toList_ofList

theorem chars_nil : chars [] = [] :=
  rfl

theorem chars_cons_markup (s : String) (ps : List Piece) : chars (.markup s :: ps) = s.toList ++ chars ps :=
  rfl

theorem chars_cons_text (s : String) (ps : List Piece) : chars (.text s :: ps) = escapeChars s.toList ++ chars ps :=
  rfl

theorem chars_cons_number (n : Nat) (ps : List Piece) : chars (number n :: ps) = Text.digits n ++ chars ps := by
  rw [number, chars_cons_markup, Text.written, String.toList_ofList]

theorem chars_append (ps qs : List Piece) : chars (ps ++ qs) = chars ps ++ chars qs :=
  List.flatMap_append

/-! ## The marks of pieces -/

@[simp] theorem marks_nil : marks [] = [] := rfl

theorem marks_append (cs ds : List Char) : marks (cs ++ ds) = marks cs ++ marks ds :=
  List.filter_append cs ds

theorem marks_cons_markup (s : String) (ps : List Piece) :
    marks (chars (.markup s :: ps)) = marks s.toList ++ marks (chars ps) :=
  marks_append _ _

/-- A text adds no marks. -/
theorem marks_cons_text (s : String) (ps : List Piece) : marks (chars (.text s :: ps)) = marks (chars ps) := by
  have hnone : marks (escapeChars s.toList) = [] := marks_eq_nil fun _ hc => not_isMark_of_mem_escapeChars hc
  rw [chars_cons_text, marks_append, hnone, List.nil_append]

/-- A number adds no marks. -/
theorem marks_cons_number (n : Nat) (ps : List Piece) : marks (chars (number n :: ps)) = marks (chars ps) := by
  have hnone : marks (Text.written n).toList = [] := by
    rw [Text.written, String.toList_ofList]
    exact marks_eq_nil fun _ hc => not_isMark_of_isDigit (Text.isDigit_of_mem_digits hc)
  rw [number, marks_cons_markup, hnone, List.nil_append]

end PlanBrowser.Html

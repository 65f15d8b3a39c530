import PlanBrowser.Proofs.Html.Marks
import PlanBrowser.Text.Pieces

/-!
# The tags of a page

A written page is read tag by tag.  A tag reaches from an opening angle bracket to the next closing one, and the values
of its attributes stand between quotation marks.  No text that enters a page has brackets or quotation marks, so a text
between two tags is read over, and a text in an attribute is its value.

* `Html.tags`, `Html.attributes`, `Html.value?` — the tags of a page, the attributes of a tag, and one of them;
* `Html.tagsEnd`, `Html.tags_append` — two parts of a page are read apart, **if the tags of the first one end**;
* `Html.tags_text` — **a text has no tags**;
* `Html.tags_tag`, `Html.attributes_value` — one tag, and **a text in an attribute**.
-/

namespace PlanBrowser.Html

open Text (pieces)

/-- **The tags of a page**, each from its opening angle bracket up to the next closing one. -/
def tags : List Char → List (List Char)
  | [] => []
  | c :: cs => if c = '<' then cs.takeWhile (· ≠ '>') :: tags cs else tags cs

/-- The pieces of a tag, two by two. -/
def paired : List (List Char) → List (List Char × List Char)
  | front :: value :: rest => (front, value) :: paired rest
  | _ => []

/-- **The attributes of a tag**: the values between quotation marks, each with what stands in front of it. -/
def attributes (tag : List Char) : List (List Char × List Char) :=
  paired (pieces '"' tag)

/-- The value of the attribute with a name. -/
def value? (name : String) (as : List (List Char × List Char)) : Option (List Char) :=
  (as.find? fun a => Text.endsWith (" " ++ name ++ "=").toList a.1).map (·.2)

/-- A text without marks does not have this one. -/
theorem not_mem_of_isMark {c : Char} (hc : isMark c = true) {cs : List Char} (h : ∀ d ∈ cs, isMark d = false) :
    c ∉ cs := by
  intro hmem
  rw [h c hmem] at hc
  cases hc

/-! ## Parts of a page -/

/-- Every tag that begins in a part of a page ends there. -/
def tagsEnd : List Char → Bool
  | [] => true
  | c :: cs => (c != '<' || cs.contains '>') && tagsEnd cs

/-- A tag that ends in the first part. -/
theorem takeWhile_append_of_contains {cs : List Char} (h : cs.contains '>' = true) (rest : List Char) :
    (cs ++ rest).takeWhile (· ≠ '>') = cs.takeWhile (· ≠ '>') := by
  induction cs with
  | nil => cases h
  | cons c cs ih =>
    by_cases hc : c = '>'
    · simp [hc]
    · have hrest : cs.contains '>' = true := by
        simpa [Ne.symm hc] using h
      rw [List.cons_append, List.takeWhile_cons, List.takeWhile_cons, ih hrest]

/-- **Two parts of a page** are read apart. -/
theorem tags_append {cs : List Char} (h : tagsEnd cs = true) (rest : List Char) :
    tags (cs ++ rest) = tags cs ++ tags rest := by
  induction cs with
  | nil => rfl
  | cons c cs ih =>
    rw [tagsEnd, Bool.and_eq_true] at h
    obtain ⟨hc, hcs⟩ := h
    by_cases hopen : c = '<'
    · have hends : cs.contains '>' = true := by
        simpa [hopen] using hc
      rw [List.cons_append, tags, if_pos hopen, ih hcs, tags, if_pos hopen, takeWhile_append_of_contains hends]
      rfl
    · rw [List.cons_append, tags, if_neg hopen, ih hcs, tags, if_neg hopen]

theorem tags_append_of_not_mem {cs : List Char} (h : '<' ∉ cs) (rest : List Char) : tags (cs ++ rest) = tags rest := by
  induction cs with
  | nil => rfl
  | cons c cs ih =>
    rw [List.mem_cons, not_or] at h
    rw [List.cons_append, tags, if_neg (Ne.symm h.1), ih h.2]

/-- **A text has no tags.** -/
theorem tags_text (cs rest : List Char) : tags (escapeChars cs ++ rest) = tags rest := by
  apply tags_append_of_not_mem
  exact not_mem_of_isMark rfl fun c hc => not_isMark_of_mem_escapeChars hc

/-! ## One tag -/

/-- **One tag**, and what follows it. -/
theorem tags_tag {tag : List Char} (hopen : '<' ∉ tag) (hclose : '>' ∉ tag) (rest : List Char) :
    tags ('<' :: (tag ++ '>' :: rest)) = tag :: tags rest := by
  have htag : (tag ++ '>' :: rest).takeWhile (· ≠ '>') = tag := by
    have hinside : ∀ c ∈ tag, decide (c ≠ '>') = true := by
      intro c hc
      apply decide_eq_true
      intro heq
      exact hclose (heq ▸ hc)
    rw [List.takeWhile_append_of_pos hinside, List.takeWhile_cons, if_neg (by decide), List.append_nil]
  rw [tags, if_pos rfl, htag, tags_append_of_not_mem hopen, tags, if_neg (by decide)]

/-- **A text in an attribute** is its value. -/
theorem attributes_value {value : List Char} (h : '"' ∉ value) (front back : List Char) :
    attributes (front ++ '"' :: (value ++ '"' :: back)) = paired (pieces '"' front ++ value :: pieces '"' back) := by
  rw [attributes, Text.pieces_append_sep, Text.pieces_append_cons h]

end PlanBrowser.Html

import Mathlib.Data.List.Basic
import PlanBrowser.Proofs.Html.Marks
import PlanBrowser.Proofs.Text.Occurrence
import PlanBrowser.Proofs.Session.Output

/-!
# The elements of a page

An element is found in a page by its id.  The control that saves plan `2` is the one with ` id="save-2"`.  Texts of all
kinds stand around it, among them such that look like an id themselves, and ids of other elements begin alike.  This
module reads over a page in search of one id.

* `ElementId.text_inj` — different elements have different ids;
* `ElementId.idAttribute` — the attribute that is looked for;
* `ElementId.places` — at how many places it stands;
* `ElementId.text_prefix_iff` — where an id begins after a quotation mark;
* `ElementId.places_skip`, … — what is read over, tagged for `simp`.
-/

namespace PlanBrowser

open Html (escapeChars)
open Text (occurrences)

/-! ## Quotation marks -/

@[simp]
theorem Html.quote_not_mem_escapeChars (cs : List Char) : '"' ∉ escapeChars cs := by
  intro h
  exact absurd (not_isMark_of_mem_escapeChars h) (by decide)

theorem Html.escapeChars_eq_self {cs : List Char} (h : ∀ c ∈ cs, entity c = [c]) : escapeChars cs = cs := by
  rw [escapeChars, List.flatMap_congr h, List.flatMap_singleton']

@[simp]
theorem Text.quote_not_mem_digits (n : Nat) : '"' ∉ digits n :=
  not_mem_digits (by decide) n

/-! ## The ids of elements -/

namespace Control

theorem elementName_inj {a b : Control} (h : a.elementName = b.elementName) : a = b := by
  cases a <;> cases b <;> first | rfl | exact absurd h (by decide)

theorem all_isAlpha_elementName (a : Control) : a.elementName.toList.all Char.isAlpha = true := by
  cases a <;> rfl

theorem dash_not_mem_elementName (a : Control) : '-' ∉ a.elementName.toList := by
  intro h
  exact absurd (List.all_eq_true.mp a.all_isAlpha_elementName '-' h) (by decide)

end Control

namespace ElementId

theorem toList_text (k : ElementId) :
    k.text.toList = k.control.elementName.toList ++ '-' :: Text.digits k.index := by
  simp [text, Text.written]

/-- **Different elements have different ids.** -/
theorem text_inj {k l : ElementId} (h : k.text = l.text) : k = l := by
  have hchars := congrArg String.toList h
  rw [toList_text, toList_text, List.append_cons_inj_of_notMem k.control.dash_not_mem_elementName
    (Text.not_mem_digits (by decide) k.index)] at hchars
  have hcontrol : k.control = l.control := Control.elementName_inj (String.toList_injective hchars.1)
  have hindex : k.index = l.index := Text.digits_inj hchars.2.2
  cases k
  cases l
  cases hcontrol
  cases hindex
  rfl

/-- An id is made of letters, a dash and digits. -/
theorem mem_text {k : ElementId} {c : Char} (h : c ∈ k.text.toList) : c.isAlpha ∨ c = '-' ∨ c.isDigit := by
  rw [toList_text, List.mem_append, List.mem_cons] at h
  obtain hname | hdash | hdigit := h
  · exact .inl (List.all_eq_true.mp k.control.all_isAlpha_elementName c hname)
  · exact .inr (.inl hdash)
  · exact .inr (.inr (Text.isDigit_of_mem_digits hdigit))

theorem quote_not_mem_text (k : ElementId) : '"' ∉ k.text.toList := by
  intro h
  exact absurd (mem_text h) (by decide)

/-- An id needs no escaping. -/
theorem escapeChars_text (k : ElementId) : escapeChars k.text.toList = k.text.toList := by
  refine Html.escapeChars_eq_self fun c hc => ?_
  have hplain : c ∉ ['&', '<', '>', '"', '\''] := by
    intro h
    simp only [List.mem_cons, List.not_mem_nil, or_false] at h
    obtain rfl | rfl | rfl | rfl | rfl := h <;> exact absurd (mem_text hc) (by decide)
  simp only [List.mem_cons, List.not_mem_nil, or_false, not_or] at hplain
  simp only [Html.entity, hplain, if_false]

/-- The attribute by which an element is found. -/
def idAttribute (k : ElementId) : String :=
  " id=\"" ++ k.text ++ "\""

theorem toList_idAttribute (k : ElementId) :
    k.idAttribute.toList = [' ', 'i', 'd', '='] ++ '"' :: (k.text.toList ++ ['"']) := by
  simp [idAttribute]

/-- **At how many places** of a text an element is found. -/
def places (k : ElementId) (cs : List Char) : Nat :=
  occurrences k.idAttribute.toList cs

variable (k : ElementId) {c d : Char} {cs rest : List Char}

@[simp]
theorem places_nil : k.places [] = 0 :=
  rfl

/-! ## Ids after a quotation mark -/

/-- **Where an id begins**, if an id stands there. -/
@[simp]
theorem text_prefix_iff {l : ElementId} :
    k.text.toList ++ ['"'] <+: escapeChars l.text.toList ++ '"' :: rest ↔ k = l := by
  rw [escapeChars_text, Text.append_cons_prefix_iff k.quote_not_mem_text l.quote_not_mem_text]
  constructor
  · intro h
    exact text_inj (String.toList_injective h.1)
  · rintro rfl
    exact ⟨rfl, List.nil_prefix⟩

@[simp]
theorem not_text_prefix (h : c ∉ ['l', 'd', 'r', 's']) : ¬ k.text.toList ++ ['"'] <+: c :: rest := by
  obtain ⟨control, i⟩ := k
  simp only [List.mem_cons, List.not_mem_nil, or_false, not_or] at h
  cases control <;> simp [toList_text, Control.elementName, Ne.symm, h]

@[simp]
theorem not_text_prefix_second (h : d ∉ ['i', 'e', 'a', 'u']) : ¬ k.text.toList ++ ['"'] <+: c :: d :: rest := by
  obtain ⟨control, i⟩ := k
  simp only [List.mem_cons, List.not_mem_nil, or_false, not_or] at h
  cases control <;> simp [toList_text, Control.elementName, Ne.symm, h]

/-- The parts of the dialog that holds a summary have ids that begin like that of the control. -/
@[simp]
theorem not_text_prefix_summary (h : c.isDigit = false) :
    ¬ k.text.toList ++ ['"'] <+: 's' :: 'u' :: 'm' :: 'm' :: 'a' :: 'r' :: 'y' :: '-' :: c :: rest := by
  obtain ⟨control, i⟩ := k
  have hdigits : ¬ Text.digits i ++ ['"'] <+: c :: rest := by
    obtain ⟨d, ds, hds⟩ := List.exists_cons_of_ne_nil (Text.digits_ne_nil i)
    have hd : d.isDigit = true := Text.isDigit_of_mem_digits (n := i) (hds ▸ List.mem_cons_self)
    rw [hds, List.cons_append, List.cons_prefix_cons]
    rintro ⟨rfl, -⟩
    rw [hd] at h
    cases h
  cases control <;> simp [toList_text, Control.elementName, hdigits]

/-! ## Reading over a page -/

theorem places_cons_of_not_prefix (h : ¬ k.idAttribute.toList <+: c :: rest) : k.places (c :: rest) = k.places rest :=
  Text.occurrences_cons_of_not_prefix h

@[simp]
theorem places_skip (h : c ≠ ' ') : k.places (c :: rest) = k.places rest := by
  refine k.places_cons_of_not_prefix ?_
  simp [toList_idAttribute, Ne.symm h]

@[simp]
theorem places_skip_blank (h : c ≠ 'i') : k.places (' ' :: c :: rest) = k.places (c :: rest) := by
  refine k.places_cons_of_not_prefix ?_
  simp [toList_idAttribute, Ne.symm h]

@[simp]
theorem places_skip_blank_i (h : c ≠ 'd') : k.places (' ' :: 'i' :: c :: rest) = k.places (c :: rest) := by
  rw [k.places_cons_of_not_prefix, k.places_skip (by decide)]
  simp [toList_idAttribute, Ne.symm h]

@[simp]
theorem places_id :
    k.places (' ' :: 'i' :: 'd' :: '=' :: '"' :: rest) =
      (if k.text.toList ++ ['"'] <+: rest then 1 else 0) + k.places rest := by
  rw [places, occurrences, ← places, k.places_skip (by decide), k.places_skip (by decide), k.places_skip (by decide),
    k.places_skip (by decide)]
  simp [toList_idAttribute]

/-- A text that is followed by a character which an attribute does not have before its first quotation mark. -/
@[simp]
theorem places_text (h : '"' ∉ cs) (hc : c ∉ [' ', 'i', 'd', '=', '"']) :
    k.places (cs ++ c :: rest) = k.places rest := by
  simp only [List.mem_cons, List.not_mem_nil, or_false, not_or] at hc
  obtain ⟨hblank, hi, hd, heq, hquote⟩ := hc
  have hsuffix : ∀ t, t <:+ cs → t ≠ [] → ¬ k.idAttribute.toList <+: t ++ c :: rest := by
    intro t ht _
    rw [toList_idAttribute]
    exact Text.not_append_cons_prefix (by simp [hblank, hi, hd, heq]) (Ne.symm hquote) fun hmem => h (ht.subset hmem)
  rw [places, Text.occurrences_append_of_not_prefix hsuffix, ← places, k.places_skip hblank]

@[simp]
theorem places_blank_text (h : '"' ∉ cs) (hc : c ∉ [' ', 'i', 'd', '=', '"']) :
    k.places (' ' :: (cs ++ c :: rest)) = k.places rest :=
  k.places_text (List.not_mem_cons_of_ne_of_not_mem (by decide) h) hc

@[simp]
theorem places_text_blank (h : '"' ∉ cs) (hc : c ∉ [' ', 'i', 'd', '=', '"']) :
    k.places (cs ++ ' ' :: c :: rest) = k.places rest := by
  have hread : k.places ((cs ++ [' ']) ++ c :: rest) = k.places rest := k.places_text (by simp [h]) hc
  rwa [List.append_assoc] at hread

@[simp]
theorem places_blank_text_blank (h : '"' ∉ cs) (hc : c ∉ [' ', 'i', 'd', '=', '"']) :
    k.places (' ' :: (cs ++ ' ' :: c :: rest)) = k.places rest :=
  k.places_text_blank (List.not_mem_cons_of_ne_of_not_mem (by decide) h) hc

/-- A text between quotation marks.  If it ends like the beginning of an attribute, the mark that closes it would have
to open an id. -/
@[simp]
theorem places_text_quote (h : '"' ∉ cs) (hc : c ∉ ['l', 'd', 'r', 's']) :
    k.places (cs ++ '"' :: c :: rest) = k.places (c :: rest) := by
  have hsuffix : ∀ t, t <:+ cs → t ≠ [] → ¬ k.idAttribute.toList <+: t ++ '"' :: c :: rest := by
    intro t ht _
    rw [toList_idAttribute, Text.append_cons_prefix_iff (by decide) fun hmem => h (ht.subset hmem)]
    exact fun hprefix => k.not_text_prefix hc hprefix.2
  rw [places, Text.occurrences_append_of_not_prefix hsuffix, ← places, k.places_skip (by decide)]

end ElementId

end PlanBrowser

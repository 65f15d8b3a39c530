import PlanBrowser.Proofs.Html.Reading
import PlanBrowser.Proofs.Html.Tag

/-!
# Escaped texts

An escaped text has no marks, so it cannot end the place where it stands, and it has an ampersand only where an entity
begins.  These two properties tell the escaped texts from all others: a text that has them is read entity by entity, and
what is read, escaped again, is the text.

* `Html.entities` — the five entities;
* `Html.Safe` — **no marks, and ampersands in front of entities only**;
* `Html.safe_escapeChars`, `Html.escapeChars_unescapeChars` — **what is escaped is safe, and what is safe was escaped**;
* `Html.escape_loses_nothing` — an escaped text is safe and tells the text, and texts are escaped part by part.
-/

namespace PlanBrowser.Html

/-- The entities that an escaped text may have. -/
def entities : List (List Char) :=
  [['&', 'a', 'm', 'p', ';'], ['&', 'l', 't', ';'], ['&', 'g', 't', ';'], ['&', 'q', 'u', 'o', 't', ';'],
    ['&', '#', '3', '9', ';']]

/-- **A text that may stand anywhere in a page**: it has none of the four marks, and wherever it has an ampersand, an entity
begins there. -/
structure Safe (cs : List Char) : Prop where
  no_open : '<' ∉ cs
  no_close : '>' ∉ cs
  no_quote : '"' ∉ cs
  no_apostrophe : '\'' ∉ cs
  begins_entity : ∀ rest, '&' :: rest <:+ cs → ∃ e ∈ entities, e <+: '&' :: rest

/-- The text that was escaped. -/
def unescape (s : String) : String :=
  String.ofList (unescapeChars s.toList)

section

variable {cs ds : List Char} {c : Char}

theorem Safe.of_suffix (h : Safe cs) (hds : ds <:+ cs) : Safe ds where
  no_open := fun hmem => h.no_open (hds.subset hmem)
  no_close := fun hmem => h.no_close (hds.subset hmem)
  no_quote := fun hmem => h.no_quote (hds.subset hmem)
  no_apostrophe := fun hmem => h.no_apostrophe (hds.subset hmem)
  begins_entity := fun rest hrest => h.begins_entity rest (hrest.trans hds)

/-! ## What is escaped is safe -/

/-- An entity has one ampersand, in front. -/
theorem exists_eq_cons_of_mem_entities {e : List Char} (h : e ∈ entities) : ∃ name, e = '&' :: name ∧ '&' ∉ name := by
  have hall : ∀ e ∈ entities, e = '&' :: e.tail ∧ '&' ∉ e.tail := by decide
  exact ⟨e.tail, hall e h⟩

/-- What stands for a character is an entity, or else the character itself, and this is no ampersand. -/
theorem entity_cases (c : Char) : entity c ∈ entities ∨ entity c = [c] ∧ '&' ≠ c := by
  by_cases hamp : c = '&'
  · exact .inl (by simp [entity, entities, hamp])
  · unfold entity
    split_ifs
    all_goals simp [entities, Ne.symm hamp]

/-- What begins with a character begins after the characters in front of it. -/
theorem suffix_of_suffix_append {before rest : List Char} (hc : c ∉ before) (h : c :: rest <:+ before ++ cs) :
    c :: rest <:+ cs := by
  induction before with
  | nil => exact h
  | cons d before ih =>
    rw [List.mem_cons, not_or] at hc
    rw [List.cons_append, List.suffix_cons_iff] at h
    rcases h with heq | h
    · exact absurd (List.cons.inj heq).1 hc.1
    · exact ih hc.2 h

/-- **In an escaped text an ampersand begins an entity.** -/
theorem begins_entity_escapeChars (cs : List Char) :
    ∀ rest, '&' :: rest <:+ escapeChars cs → ∃ e ∈ entities, e <+: '&' :: rest := by
  induction cs with
  | nil =>
    intro rest hrest
    exact absurd (List.suffix_nil.mp hrest) (List.cons_ne_nil _ _)
  | cons c cs ih =>
    intro rest hrest
    change '&' :: rest <:+ entity c ++ escapeChars cs at hrest
    rcases entity_cases c with hentity | ⟨hself, hne⟩
    · obtain ⟨name, hname, hnot⟩ := exists_eq_cons_of_mem_entities hentity
      rw [hname, List.cons_append, List.suffix_cons_iff] at hrest
      rcases hrest with heq | hrest
      · rw [heq]
        exact ⟨entity c, hentity, hname ▸ List.prefix_append _ _⟩
      · exact ih rest (suffix_of_suffix_append hnot hrest)
    · rw [hself] at hrest
      exact ih rest (suffix_of_suffix_append (by simpa using hne) hrest)

/-- **An escaped text is safe.** -/
theorem safe_escapeChars (cs : List Char) : Safe (escapeChars cs) where
  no_open := not_mem_of_isMark rfl fun _ => not_isMark_of_mem_escapeChars
  no_close := not_mem_of_isMark rfl fun _ => not_isMark_of_mem_escapeChars
  no_quote := not_mem_of_isMark rfl fun _ => not_isMark_of_mem_escapeChars
  no_apostrophe := not_mem_of_isMark rfl fun _ => not_isMark_of_mem_escapeChars
  begins_entity := begins_entity_escapeChars cs

/-! ## What is safe was escaped -/

/-- Every entity stands for a character. -/
theorem exists_entity_of_mem_entities {e : List Char} (h : e ∈ entities) : ∃ d, entity d = e := by
  simp only [entities, List.mem_cons, List.not_mem_nil, or_false] at h
  rcases h with rfl | rfl | rfl | rfl | rfl
  · exact ⟨'&', rfl⟩
  · exact ⟨'<', rfl⟩
  · exact ⟨'>', rfl⟩
  · exact ⟨'"', rfl⟩
  · exact ⟨'\'', rfl⟩

/-- **A safe text begins with what stands for a character.** -/
theorem Safe.exists_entity (h : Safe (c :: cs)) : ∃ d rest, c :: cs = entity d ++ rest := by
  by_cases hamp : c = '&'
  · subst hamp
    obtain ⟨e, he, rest, hrest⟩ := h.begins_entity cs List.suffix_rfl
    obtain ⟨d, rfl⟩ := exists_entity_of_mem_entities he
    exact ⟨d, rest, hrest.symm⟩
  · have hne {d : Char} (hd : d ∉ c :: cs) : c ≠ d := by
      rintro rfl
      exact hd List.mem_cons_self
    have hself : entity c = [c] := by
      rw [entity, if_neg hamp, if_neg (hne h.no_open), if_neg (hne h.no_close), if_neg (hne h.no_quote),
        if_neg (hne h.no_apostrophe)]
    exact ⟨c, cs, by rw [hself, List.singleton_append]⟩

theorem entity_ne_nil (c : Char) : entity c ≠ [] := by
  unfold entity
  split_ifs <;> exact List.cons_ne_nil _ _

/-- **What is read of a safe text**, escaped again, is the text. -/
theorem escapeChars_unescapeChars (h : Safe cs) : escapeChars (unescapeChars cs) = cs := by
  -- one character is read at a time, and what is left is shorter
  induction hn : cs.length using Nat.strongRecOn generalizing cs with
  | ind n ih =>
    cases cs with
    | nil => rfl
    | cons c cs =>
      obtain ⟨d, rest, heq⟩ := h.exists_entity
      have hshort : rest.length < n := by
        have hpos := List.length_pos_iff.mpr (entity_ne_nil d)
        rw [← hn, heq, List.length_append]
        omega
      have hrest : Safe rest := h.of_suffix (heq ▸ List.suffix_append _ _)
      rw [heq, unescapeChars_entity]
      show entity d ++ escapeChars (unescapeChars rest) = _
      rw [ih rest.length hshort hrest rfl]

end

/-! ## Escaping -/

theorem unescape_escape (s : String) : unescape (escape s) = s := by
  rw [unescape, escape, String.toList_ofList, unescapeChars_escapeChars, String.ofList_toList]

theorem escape_append (s t : String) : escape (s ++ t) = escape s ++ escape t := by
  rw [escape, String.toList_append, escapeChars, List.flatMap_append, String.ofList_append]
  rfl

/-- **Escaping loses nothing, and what is escaped can do no harm.**  An escaped text is safe, and the text is read from it, so
no two texts are escaped alike; texts that are joined are escaped one by one; and every safe text was escaped. -/
theorem escape_loses_nothing :
    (∀ s, Safe (escape s).toList ∧ unescape (escape s) = s) ∧
      (∀ s t, escape s = escape t ↔ s = t) ∧
      (∀ s t, escape (s ++ t) = escape s ++ escape t) ∧
      ∀ u : String, Safe u.toList ↔ escape (unescape u) = u := by
  have hsafe (s : String) : Safe (escape s).toList := by
    rw [escape, String.toList_ofList]
    exact safe_escapeChars s.toList
  refine ⟨fun s => ⟨hsafe s, unescape_escape s⟩, fun s t => ⟨fun h => ?_, fun h => h ▸ rfl⟩, escape_append, fun u => ?_⟩
  · rw [← unescape_escape s, h, unescape_escape]
  · constructor
    · intro h
      rw [escape, unescape, String.toList_ofList, escapeChars_unescapeChars h, String.ofList_toList]
    · intro h
      exact h ▸ hsafe (unescape u)

/-- A text with entities is kept as it is, also one that ends inside an entity. -/
example : escape "&lt;&am" = "&amp;lt;&amp;am" := rfl

end PlanBrowser.Html

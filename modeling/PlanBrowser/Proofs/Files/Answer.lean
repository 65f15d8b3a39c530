import PlanBrowser.Files.Tree

/-!
# Work, whatever is answered

On a tree the answers that a task gets go together: what has been written is read, and there is room for everything.  In
a real folder this need not be so, since others work there too, disks are full, and nobody may read what is put out.  So
here each answer may be any.

* `Task.MayEnd` — a result that a task may come to;
* `Task.mayEnd_run` — on a tree a task comes to one of them;
* `Task.exists_of_mayEnd_bind` — what two tasks come to, the second one comes to after the first one.
-/

namespace PlanBrowser.Files.Task

variable {α β : Type}

/-- **The task may come to this result**, if it is given the right answers. -/
def MayEnd : Task α → α → Prop
  | .done a, b => b = a
  | .read _ next, b => ∃ r, (next r).MayEnd b
  | .look _ next, b => ∃ r, (next r).MayEnd b
  | .makeFolders _ next, b => ∃ r, (next r).MayEnd b
  | .write _ _ next, b => ∃ r, (next r).MayEnd b
  | .print _ next, b => ∃ r, (next r).MayEnd b

/-- A tree gives some answers. -/
theorem mayEnd_run (t : Task α) (tree : Tree) : t.MayEnd (t.run tree).1 := by
  induction t generalizing tree with
  | done a => rfl
  | read path next ih => exact ⟨_, ih (tree.read path) tree⟩
  | look path next ih => exact ⟨_, ih (tree.holds path) tree⟩
  | makeFolders path next ih => exact ⟨_, ih (tree.makeFolders path).2 (tree.makeFolders path).1⟩
  | write path bytes next ih =>
    exact ⟨_, ih ((tree.write path bytes).2.mapError .unmade) (tree.write path bytes).1⟩
  | print bytes next ih => exact ⟨_, ih (.ok ()) tree⟩

/-- **What two tasks come to**, the second one comes to after the first one. -/
theorem exists_of_mayEnd_bind {t : Task α} {f : α → Task β} {b : β} (h : (t.bind f).MayEnd b) :
    ∃ a, t.MayEnd a ∧ (f a).MayEnd b := by
  -- whatever is asked for, the answer that led to `b` led to some `a` before
  have hasked {ρ : Type} {next : ρ → Task α}
      (ih : ∀ r, ((next r).bind f).MayEnd b → ∃ a, (next r).MayEnd a ∧ (f a).MayEnd b)
      (h : ∃ r, ((next r).bind f).MayEnd b) : ∃ a, (∃ r, (next r).MayEnd a) ∧ (f a).MayEnd b := by
    obtain ⟨r, h⟩ := h
    obtain ⟨a, ha, hb⟩ := ih r h
    exact ⟨a, ⟨r, ha⟩, hb⟩
  induction t with
  | done a => exact ⟨a, rfl, h⟩
  | read path next ih => exact hasked ih h
  | look path next ih => exact hasked ih h
  | makeFolders path next ih => exact hasked ih h
  | write path bytes next ih => exact hasked ih h
  | print bytes next ih => exact hasked ih h

end PlanBrowser.Files.Task

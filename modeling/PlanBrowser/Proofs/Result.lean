/-!
# Results that may be faults

What is computed step by step comes to something exactly if every step does, and a test lets what follows come to
something exactly if it is passed.

* `bind_eq_ok`, `map_eq_ok`, `mapError_eq_ok` — steps;
* `refuse_bind_eq_ok`, `refuse_eq_ok` — tests.
-/

namespace PlanBrowser

variable {ε ε' α β : Type}

theorem bind_eq_ok {x : Except ε α} {f : α → Except ε β} {b : β} :
    (x >>= f) = .ok b ↔ ∃ a, x = .ok a ∧ f a = .ok b := by
  cases x <;> simp [bind, Except.bind]

theorem map_eq_ok {x : Except ε α} {f : α → β} {b : β} :
    x.map f = .ok b ↔ ∃ a, x = .ok a ∧ f a = b := by
  cases x <;> simp [Except.map]

theorem mapError_eq_ok {x : Except ε α} {f : ε → ε'} {a : α} :
    x.mapError f = .ok a ↔ x = .ok a := by
  cases x with
  | error fault => exact ⟨nofun, nofun⟩
  | ok b =>
    show (Except.ok b : Except ε' α) = .ok a ↔ _
    rw [Except.ok.injEq, Except.ok.injEq]

section

variable {p : Prop} [Decidable p] {fault : ε}

/-- A test in front of something. -/
theorem refuse_bind_eq_ok {f : α → Except ε β} {x : Except ε β} {b : β} :
    (if p then throw fault >>= f else x) = .ok b ↔ ¬ p ∧ x = .ok b := by
  by_cases h : p <;> simp [h, throw, throwThe, MonadExceptOf.throw, bind, Except.bind]

/-- The last test. -/
theorem refuse_eq_ok {a b : α} : (if p then throw fault else pure a : Except ε α) = .ok b ↔ ¬ p ∧ a = b := by
  by_cases h : p <;> simp [h, throw, throwThe, MonadExceptOf.throw, pure, Except.pure]

end

end PlanBrowser

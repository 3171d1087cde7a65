/-!
# ChatFlow — steps that may fail

A chain of steps gives a result only if each of them does. A step that changes a state returns its
result with the new state, also when it fails; `forget` keeps whether it failed and drops the rest
of the result.

## Results

* `bind_eq_ok_iff`        — two steps.
* `map_eq_ok_iff`         — a step and what is made of its result.
* `toOption_eq_some_iff`  — a step whose failure does not matter.
* `toOption_eq_none_iff`  — a step that fails.
* `forget_of_error`       — a failure is not forgotten.
-/

namespace ChatFlow

variable {α β ε σ : Type} {x : Except ε α} {b : β}

/-- Two steps give a result just if the first one does and the second one does with what it gave. -/
theorem bind_eq_ok_iff {f : α → Except ε β} : x >>= f = .ok b ↔ ∃ a, x = .ok a ∧ f a = .ok b := by
  cases x <;> simp [bind, Except.bind]

theorem map_eq_ok_iff {f : α → β} : x.map f = .ok b ↔ ∃ a, x = .ok a ∧ f a = b := by
  cases x <;> simp [Except.map]

theorem toOption_eq_some_iff {a : α} : x.toOption = some a ↔ x = .ok a := by
  cases x <;> simp [Except.toOption]

theorem toOption_eq_none_iff : x.toOption = none ↔ ∃ e, x = .error e := by
  cases x <;> simp [Except.toOption]

/-- Drops what a successful call returns beside the state. -/
def forget (call : Except ε α × σ) : Except ε Unit × σ := (call.1.map fun _ => (), call.2)

/-- A call that failed has failed when its result is forgotten. -/
theorem forget_of_error {call : Except ε α × σ} {e : ε} (h : call.1 = .error e) :
    (forget call).1 = .error e := by
  rw [forget, h]
  rfl

end ChatFlow

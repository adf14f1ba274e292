set_option autoImplicit false

/-!
# Results that may be faults

When a step after another one succeeds, both do, and when it fails, one of them does.

## Main results

* `Except.map_eq_ok_iff`, `Except.bind_eq_ok_iff` — what a result came from.
* `Except.map_eq_error_iff`, `Except.bind_eq_error_iff` — what a fault came from.
-/

namespace Except

variable {ε α β : Type}

/-- A changed result comes from a result. -/
theorem map_eq_ok_iff {x : Except ε α} {f : α → β} {b : β} :
    x.map f = .ok b ↔ ∃ a, x = .ok a ∧ f a = b := by
  cases x with
  | error e => simp [Except.map]
  | ok a => simp [Except.map]

/-- The result of two steps comes from a result of the first one. -/
theorem bind_eq_ok_iff {x : Except ε α} {f : α → Except ε β} {b : β} :
    x.bind f = .ok b ↔ ∃ a, x = .ok a ∧ f a = .ok b := by
  cases x with
  | error e => simp [Except.bind]
  | ok a => simp [Except.bind]

/-- A change to a result adds no fault. -/
theorem map_eq_error_iff {x : Except ε α} {f : α → β} {e : ε} :
    x.map f = .error e ↔ x = .error e := by
  cases x with
  | error e' => simp [Except.map]
  | ok a => simp [Except.map]

/-- The fault of two steps is that of the first one, or that of the second one behind it. -/
theorem bind_eq_error_iff {x : Except ε α} {f : α → Except ε β} {e : ε} :
    x.bind f = .error e ↔ x = .error e ∨ ∃ a, x = .ok a ∧ f a = .error e := by
  cases x with
  | error e' => simp [Except.bind]
  | ok a => simp [Except.bind]

end Except

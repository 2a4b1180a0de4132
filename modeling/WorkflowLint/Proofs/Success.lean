/-!
# `WorkflowLint.Proofs.Success`: computations that can fail

Readers and file systems give a result or an error. Something is known of the result only if there
is one, so most statements about them start from a success: a computation in two parts is taken
apart at it (`bind_eq_ok_iff`), and one that can be carried out shows that there is one
(`exists_eq_ok`, `exists_ok_of_any`).
-/

set_option autoImplicit false

namespace WorkflowLint

/-- A computation in two parts succeeds when both parts do, the second one on the result of the
first. -/
theorem bind_eq_ok_iff {ε α β : Type} {x : Except ε α} {f : α → Except ε β} {b : β} :
    x >>= f = .ok b ↔ ∃ a, x = .ok a ∧ f a = .ok b := by
  cases x with
  | error e => simp [bind, Except.bind]
  | ok a => simp [bind, Except.bind]

/-- A result that is known to be one can be named. -/
theorem exists_eq_ok {ε α : Type} {x : Except ε α} (h : x.isOk = true) : ∃ a, x = .ok a := by
  cases x with
  | error e => cases h
  | ok a => exact ⟨a, rfl⟩

/-- A result that satisfies a condition, when it is known to be one and to satisfy it. -/
theorem exists_ok_of_any {ε α : Type} {x : Except ε α} {p : α → Prop} [DecidablePred p]
    (h : (x.toOption.any fun a => decide (p a)) = true) : ∃ a, x = .ok a ∧ p a := by
  cases x with
  | error e => cases h
  | ok a => exact ⟨a, rfl, of_decide_eq_true h⟩

end WorkflowLint

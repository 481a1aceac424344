import TestOps.ControlPlane.Persistence

/-! The state transitions of a persisted run:

      QUEUED ──▸ PREPARING ──▸ RUNNING ──▸ PASSED | FAILED | CANCELED | TIMED_OUT | INFRA_ERROR
        │            │
        └────────────┴──▸ CANCELED | INFRA_ERROR

    A terminal status has no successor. -/

namespace TestOps

def allowedRunTransitions : RunStatus → List RunStatus
  | .queued => [.preparing, .canceled, .infraError]
  | .preparing => [.running, .canceled, .infraError]
  | .running => [.passed, .failed, .canceled, .timedOut, .infraError]
  | .passed | .failed | .canceled | .timedOut | .infraError => []

/-- The text of an `InvalidRunTransition`. -/
def invalidRunTransition (current target : RunStatus) : String :=
  "invalid Run transition: " ++ current.value.text ++ " -> " ++ target.value.text

def requireRunTransition (current target : RunStatus) (error : ServiceError) :
    Except ServiceError Unit :=
  Checked.ensure (target ∈ allowedRunTransitions current) error

@[simp] theorem requireRunTransition_eq_ok {current target : RunStatus} {error : ServiceError}
    {u : Unit} :
    requireRunTransition current target error = .ok u ↔ target ∈ allowedRunTransitions current :=
  Checked.ensure_eq_ok

/-- A run with a successor status is not terminal. -/
theorem not_terminal_of_allowed {current target : RunStatus}
    (h : target ∈ allowedRunTransitions current) : current.isTerminal = false := by
  cases current <;> first | rfl | simp [allowedRunTransitions] at h

/-- Only a queued run can still be told to prepare, and only a preparing one to run. -/
theorem source_of_allowed {current target : RunStatus}
    (h : target ∈ allowedRunTransitions current) (ht : target.isTerminal = false) :
    (current = .queued ∧ target = .preparing) ∨ (current = .preparing ∧ target = .running) := by
  cases current <;> cases target <;> simp_all [allowedRunTransitions, RunStatus.isTerminal]

end TestOps

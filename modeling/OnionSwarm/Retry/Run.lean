/-
Trying a call again.

The call is any operation at all, so an attempt may find what the one before it left, and a pause
may let others go on.
The loop ends with the first success, the first failure that is final, or the last attempt that the
policy allows; there is always at least one.
-/
import OnionSwarm.Api.Failure
import OnionSwarm.Retry.Policy

namespace OnionSwarm.Retry

variable {m : Type → Type} [Monad m] {α : Type}

/-- Tries a call, and up to `more` times again, pausing before each further attempt. -/
def attempts (attempt : m (Except ApiFailure α)) (pause : m Unit) :
    (more : Nat) → m (Except ApiFailure α)
  | 0 => attempt
  | more + 1 => do
    match ← attempt with
    | .ok value => return .ok value
    | .error failure =>
      if failure.decision = .fail then return .error failure
      else
        pause
        attempts attempt pause more

/-- Tries a call as often as the policy allows. -/
def run (policy : RetryPolicy) (pause : m Unit)
    (attempt : m (Except ApiFailure α)) : m (Except ApiFailure α) :=
  attempts attempt pause (max 1 policy.maxAttempts.toNat - 1)

end OnionSwarm.Retry

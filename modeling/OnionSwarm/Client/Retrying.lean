/-
Calls that are tried again as the policy allows, or once only if the call's notes say so.
-/
import OnionSwarm.Client.State
import OnionSwarm.Retry.Run

namespace OnionSwarm.Retrying

variable {ω Request Answer : Type}

/-- Waits as long as the backoff says, and not at all if it says zero. -/
def pause (backoff : Backoff) : Work ω Unit := do
  let delay ← .ofAction (Act.ofDice backoff.delay)
  if delay ≠ 0 then Job.wait delay

/-- The policy of a call. -/
def policyFor (policy : RetryPolicy) (notes : CallNotes) : RetryPolicy :=
  if notes.contains .singleAttempt then .once else policy

/-- Sends requests over the layer below, more than once if need be. -/
def send (policy : RetryPolicy) (inner : Request → Work ω (Except ApiFailure Answer))
    (request : Request) : Work ω (Except ApiFailure Answer) := do
  let policy := policyFor policy (← get).notes
  Retry.run policy (pause policy.backoff) (inner request)

end OnionSwarm.Retrying

/-
How calls fail.

A layer that knows whether a failed call should be made again attaches a decision to the failure.
The decision is no cause: with or without it the failure reads the same.
-/
import OnionSwarm.Onion.Failure
import OnionSwarm.Onion.Path

namespace OnionSwarm

/-- Why a call failed. -/
inductive ApiFailure where
  | onion (cause : OnionFailure)
  | path (cause : PathFailure)
  | directory (cause : DirectoryFailure)
  /-- A status that no rule covers. -/
  | unhandled (code : Nat) (body : Option String)
  | malformed (reason : String)
  | batch (reason : String)
  /-- A failure with a decision attached. -/
  | decided (cause : ApiFailure) (decision : Decision)
  deriving DecidableEq, Repr

namespace ApiFailure

/-- Attaches a decision, in place of one that is there already. -/
def withDecision (f : ApiFailure) (decision : Decision) : ApiFailure :=
  match f with
  | .decided cause _ => .decided cause decision
  | other => .decided other decision

/-- The decision attached last. -/
def attached? : ApiFailure → Option Decision
  | .decided _ decision => some decision
  | _ => none

/-- The failure without decisions. -/
def cause : ApiFailure → ApiFailure
  | .decided cause _ => cause.cause
  | other => other

/-- The onion failure behind it, if it is one. -/
def onion? (f : ApiFailure) : Option OnionFailure :=
  match f.cause with
  | .onion cause => some cause
  | _ => none

/-- The status code that it came with. -/
def code? (f : ApiFailure) : Option Nat :=
  match f.cause with
  | .onion cause => cause.code?
  | .unhandled code _ => some code
  | _ => none

/-- Is the call to be made again?  The attached decision counts, else the onion failure's own; every
other failure is final. -/
def decision (f : ApiFailure) : Decision :=
  match f.attached? with
  | some decision => decision
  | none =>
    match f.onion? with
    | some cause => cause.decision
    | none => .fail

/-- The wording of a failure. -/
def message : ApiFailure → String
  | .onion cause => cause.message
  | .path cause => cause.message
  | .directory cause => cause.message
  | .unhandled code _ => "Unhandled status " ++ toString code
  | .malformed reason => "Malformed response: " ++ reason
  | .batch reason => "Batch failed: " ++ reason
  | .decided cause _ => cause.message

theorem cause_withDecision (f : ApiFailure) (d : Decision) :
    (f.withDecision d).cause = f.cause := by
  cases f <;> simp [withDecision, cause]

theorem decision_withDecision (f : ApiFailure) (d : Decision) :
    (f.withDecision d).decision = d := by
  cases f <;> simp [withDecision, decision, attached?]

end ApiFailure
end OnionSwarm

/-
How onion requests fail.

A failure is noticed either at the guard, before there is any onion reply, or in the decrypted reply
of the destination.  It tells which node is to blame, as far as that is known, and by itself it
suggests whether another attempt may help.
-/
import OnionSwarm.Node.Basic

namespace OnionSwarm

/-- A status in the manner of HTTP, with what came along. -/
structure Status where
  code : Nat
  message : Option String
  body : Option Bytes
  deriving DecidableEq, Repr

namespace Status

/-- The bare status. -/
def ofCode (code : Nat) : Status := ⟨code, none, none⟩

/-- The body as text. -/
def bodyText (s : Status) : Option String := s.body.map Text.Utf8.lossy

/-- The code, and the message behind it if there is one. -/
def render (s : Status) : String :=
  match s.message with
  | some message => toString s.code ++ " (" ++ message ++ ")"
  | none => toString s.code

end Status

/-- Whether a failed call is to be made again. -/
inductive Decision where
  | retry
  | fail
  deriving DecidableEq, Repr

/-- Why an onion request failed. -/
inductive OnionFailure where
  /-- The guard gave no answer at all. -/
  | guardUnreachable (guardNode : Node) (reason : String)
  /-- The guard answered with an error that names no other node. -/
  | guardRefused (guardNode : Node) (status : Status)
  /-- A hop could not reach the node with the given key. -/
  | hopFailed (reporter : Node) (failedKey : String) (status : Status)
  | destinationUnreachable (status : Status)
  | destinationRefused (status : Status)
  /-- The destination finds the time of the request wrong. -/
  | clockSkew (status : Status)
  /-- The reply cannot be read. -/
  | badReply (reason : String)
  | other (reason : String)
  deriving DecidableEq, Repr

namespace OnionFailure

/-- The status that came with the failure. -/
def status? : OnionFailure → Option Status
  | .guardRefused _ status => some status
  | .hopFailed _ _ status => some status
  | .destinationUnreachable status => some status
  | .destinationRefused status => some status
  | .clockSkew status => some status
  | .guardUnreachable _ _ | .badReply _ | .other _ => none

/-- The status code that came with the failure. -/
def code? (f : OnionFailure) : Option Nat := f.status?.map Status.code

/-- What is done if nothing else decides: a failure of the way is tried again, a refusal is not. -/
def decision : OnionFailure → Decision
  | .guardUnreachable _ _ | .hopFailed _ _ _ | .badReply _ | .other _ => .retry
  | .guardRefused _ _ | .destinationUnreachable _ | .destinationRefused _ | .clockSkew _ => .fail

/-- The wording of a failure. -/
def message : OnionFailure → String
  | .guardUnreachable guardNode reason => "Guard " ++ guardNode.url ++ " unreachable: " ++ reason
  | .guardRefused guardNode status => "Guard " ++ guardNode.url ++ " returned " ++ status.render
  | .hopFailed reporter failedKey _ =>
    "Node " ++ failedKey ++ " unreachable (reported by " ++ reporter.url ++ ")"
  | .destinationUnreachable status => "Destination unreachable: " ++ status.render
  | .destinationRefused status => "Destination returned " ++ status.render
  | .clockSkew status => "Clock out of sync: " ++ status.render
  | .badReply reason => "Invalid onion response: " ++ reason
  | .other reason => "Onion request failed: " ++ reason

end OnionFailure
end OnionSwarm

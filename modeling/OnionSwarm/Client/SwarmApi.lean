/-
Calls to the swarm of an account: bound to one of its nodes, and to another one when that node says
that it does not serve the account.
-/
import OnionSwarm.Client.Swarms

namespace OnionSwarm.SwarmApi

variable {ω : Type}

/-- With these codes a node says that it does not serve the account. -/
def membershipCodes : List Nat := [401, 421]

/-- The body of a refusal that says so. -/
def membershipBody? (failure : ApiFailure) : Option (Option Bytes) :=
  match failure.onion? with
  | some (.destinationRefused status) =>
    if status.code ∈ membershipCodes then some status.body else none
  | _ => none

/-- The node that the call goes to: the one it went to before, the one that is forced, or the next
of the swarm. -/
def target (source : SwarmSource ω) (c : SwarmCall) : Work ω (Except ApiFailure Node) := do
  match (← get).notes.get? .pinnedNode with
  | some n => return .ok n
  | none =>
    match c.forced with
    | some n => return .ok n
    | none =>
      match ← source.target c.account with
      | .error e => return .error (.directory e)
      | .ok n =>
        modify fun s => { s with notes := s.notes.set .pinnedNode n }
        return .ok n

/-- The node does not serve the account: the swarm is replaced by the one in the reply, or else
loses the node, and the next attempt goes to another one, unless the node is forced. -/
def onMembership (c : SwarmCall) (n : Node) (body : Option Bytes) (failure : ApiFailure) :
    Act ω ApiFailure := do
  if !(← SwarmSource.replaceFrom c.account body) then SwarmSource.drop n c.account
  modify fun s => { s with notes := s.notes.erase .pinnedNode }
  return failure.withDecision (if c.forced.isSome then .fail else .retry)

/-- Sends a call to a node, and if that does not serve the account corrects the swarm. -/
def sendTo (api : NodeApi ω) (c : SwarmCall) (n : Node) : Work ω (Except ApiFailure Json) := do
  match ← api n c.call with
  | .ok v => return .ok v
  | .error failure =>
    match membershipBody? failure with
    | none => return .error failure
    | some body => return .error (← .ofAction (onMembership c n body failure))

/-- Sends calls to swarms over the layer below. -/
def send (source : SwarmSource ω) (api : NodeApi ω) : SwarmApi ω := fun c => do
  match ← target source c with
  | .error e => return .error e
  | .ok n => sendTo api c n

end OnionSwarm.SwarmApi

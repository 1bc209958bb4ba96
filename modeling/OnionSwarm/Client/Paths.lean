/-
The paths of the client, and what becomes of pool and guards when one fails.
-/
import OnionSwarm.Client.Pool
import OnionSwarm.Onion.Guards

namespace OnionSwarm.Paths

variable {ω : Type}

/-- A new path; the excluded node is no hop of it. -/
def get (source : SeedSource ω) (plan : PathPlan) (exclude : Option Node) :
    Act ω (Except PathFailure Path) := do
  match ← source.ensure with
  | .error e => return .error (.directory e)
  | .ok pool => fun c =>
    let (result, guards, dice) := Guards.choosePath c.dice plan pool c.guards exclude
    (result, { c with guards, dice })

/-- The path as a whole misbehaved: its guard is given up. -/
def dropPath (path : Path) : Act ω Unit := fun c =>
  ((), { c with guards := Guards.afterBadPath c.guards path })

/-- A node is known to be unreachable: it leaves the pool and the guards. -/
def dropKey (key : String) : Act ω Unit := do
  SeedSource.dropKey key
  modify fun c => { c with guards := Pool.without c.guards key }

/-- Gives up what a failure speaks against, and says what becomes of the call.  A hop that could not
go on names the node after it; if that is no hop of the path, the path is given up as well. -/
def penalise (path : Path) (failure : OnionFailure) : Act ω ApiFailure := do
  match failure with
  | .hopFailed _ key _ =>
    match path.hopWithKey? key with
    | some hop => dropKey hop.key
    | none =>
      dropKey key
      dropPath path
    return (ApiFailure.onion failure).withDecision .retry
  | .guardUnreachable _ _ | .badReply _ =>
    dropPath path
    return (ApiFailure.onion failure).withDecision .retry
  | .guardRefused _ _ =>
    dropPath path
    return .onion failure
  | .destinationUnreachable _ | .destinationRefused _ | .clockSkew _ | .other _ =>
    return .onion failure

end OnionSwarm.Paths

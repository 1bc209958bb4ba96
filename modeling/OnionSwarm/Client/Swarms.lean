/-
The swarms of the client: remembered, asked of a random node when too small, and corrected by what
the nodes themselves answer.
-/
import OnionSwarm.Client.Pool
import OnionSwarm.Directory.Swarm

namespace OnionSwarm

/-- Where swarms come from. -/
structure SwarmSource (ω : Type) where
  pool : SeedSource ω
  /-- How a node is asked for a swarm. -/
  ask : NodeApi ω
  /-- The size below which a swarm is asked for. -/
  minSwarm : Nat

namespace SwarmSource

variable {ω : Type}

/-- Asks a random node of the pool for the swarm of an account. -/
def fetch (source : SwarmSource ω) (account : String) :
    Work ω (Except DirectoryFailure (List Node)) := do
  match ← source.pool.randomNode with
  | .error e => return .error e
  | .ok n =>
    match ← Work.apart (source.ask n (.findSwarm account)) with
    | .error e => return .error (.swarmFetchFailed e.message)
    | .ok reply =>
      match Swarm.ofReply? reply with
      | some nodes => return .ok nodes
      | none => return .error (.swarmFetchFailed "response has no snodes list")

/-- The swarm of an account, asked for first if it is too small. -/
def get (source : SwarmSource ω) (account : String) :
    Work ω (Except DirectoryFailure (List Node)) := do
  let known ← .ofAction (Act.swarm account)
  if source.minSwarm ≤ known.length then return .ok known
  else
    match ← source.fetch account with
    | .error e => return .error e
    | .ok nodes =>
      if nodes.length < source.minSwarm then
        return .error (.swarmTooSmall account nodes.length)
      else
        .ofAction (Act.setSwarm account nodes)
        return .ok nodes

/-- A node of a swarm, each in its turn. -/
def pick (account : String) (swarm : List Node) : Act ω (Option Node) := fun c =>
  let (picked, rounds, dice) := c.rounds.select c.dice account swarm
  (picked, { c with rounds, dice })

/-- A node of the swarm of an account, each in its turn. -/
def target (source : SwarmSource ω) (account : String) :
    Work ω (Except DirectoryFailure Node) := do
  match ← source.get account with
  | .error e => return .error e
  | .ok swarm =>
    match ← .ofAction (pick account swarm) with
    | some n => return .ok n
    | none => return .error (.emptySwarm account)

/-- Replaces the swarm by the list in the body of a refusal; false if there is no usable one. -/
def replaceFrom (account : String) (body : Option Bytes) : Act ω Bool := do
  match Swarm.ofBody body with
  | [] => return false
  | nodes =>
    Act.setSwarm account nodes
    return true

/-- Removes a node from the swarm of an account. -/
def drop (n : Node) (account : String) : Act ω Unit := do
  let swarm ← Act.swarm account
  if n.isIn swarm then Act.setSwarm account (Swarm.without swarm n)

end SwarmSource
end OnionSwarm

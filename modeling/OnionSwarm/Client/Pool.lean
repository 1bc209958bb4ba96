/-
The pool of the client: asked of a seed when it is too small, and given up node by node.
-/
import OnionSwarm.Client.State
import OnionSwarm.Directory.Pool

namespace OnionSwarm

/-- Where the pool comes from. -/
structure SeedSource (ω : Type) where
  seeds : List String
  /-- The pool size below which a seed is asked. -/
  minPool : Nat
  post : HttpPost ω

namespace SeedSource

variable {ω : Type}

/-- What a seed's answer means. -/
def readAnswer (seed : String) : Except HttpFailure HttpReply →
    Except DirectoryFailure (List Node)
  | .error e => .error (.seedFailed (seed ++ ": " ++ e.message))
  | .ok reply =>
    if isSuccess reply.status then Pool.ofSeedReply reply.body
    else .error (.seedFailed (seed ++ " returned " ++ toString reply.status))

/-- Asks a random seed for the pool, which is replaced only by a usable answer. -/
def refresh (source : SeedSource ω) : Act ω (Except DirectoryFailure (List Node)) := do
  match ← Act.ofDice (·.pick? source.seeds) with
  | none => return .error .noSeeds
  | some seed =>
    let answer ← Act.ofOutside (source.post seed NodeCall.listNodes.toBytes)
    match readAnswer seed answer with
    | .error e => return .error e
    | .ok nodes =>
      Act.setPool nodes
      return .ok nodes

/-- The pool, asked of a seed first if it is too small. -/
def ensure (source : SeedSource ω) : Act ω (Except DirectoryFailure (List Node)) := do
  let pool ← Act.pool
  if source.minPool ≤ pool.length then return .ok pool else source.refresh

/-- A random node of the pool. -/
def randomNode (source : SeedSource ω) : Act ω (Except DirectoryFailure Node) := do
  match ← source.ensure with
  | .error e => return .error e
  | .ok pool =>
    match ← Act.ofDice (·.pick? pool) with
    | some n => return .ok n
    | none => return .error .emptyPool

/-- The guards, filled up from the pool as it is. -/
def guardNodes (existing : List Node) (target : Nat) :
    Act ω (Except DirectoryFailure (List Node)) := do
  if target ≤ existing.length then return .ok existing
  else
    let pool ← Act.pool
    Act.ofDice fun d => Pool.topUp d pool existing target

/-- Removes the nodes of an Ed25519 key from the pool. -/
def dropKey (key : String) : Act ω Unit := do
  let pool ← Act.pool
  if Pool.hasKey pool key then Act.setPool (Pool.without pool key)

end SeedSource
end OnionSwarm

/-
What can go wrong with the directories of nodes: the pool, which lists the whole network, and the
swarms, which list the nodes that store one account's messages.
-/
import OnionSwarm.Node.Basic

namespace OnionSwarm

/-- Why a directory has no answer. -/
inductive DirectoryFailure where
  /-- The seed was asked and gave no pool. -/
  | seedFailed (reason : String)
  | noSeeds
  | emptyPool
  | tooFewNodes (needed available : Nat)
  | emptySwarm (account : String)
  | swarmTooSmall (account : String) (size : Nat)
  | swarmFetchFailed (reason : String)
  | badKey (reason : String)
  deriving DecidableEq, Repr

namespace DirectoryFailure

/-- The wording of a failure. -/
def message : DirectoryFailure → String
  | .seedFailed reason => "Seed bootstrap failed: " ++ reason
  | .noSeeds => "No seed nodes configured"
  | .emptyPool => "Snode pool is empty"
  | .tooFewNodes needed available =>
    "Not enough snodes: needed " ++ toString needed ++ ", available " ++ toString available
  | .emptySwarm account => "Swarm for " ++ account ++ " is empty"
  | .swarmTooSmall account size =>
    "Swarm for " ++ account ++ " too small (" ++ toString size ++ " nodes)"
  | .swarmFetchFailed reason => "Swarm fetch failed: " ++ reason
  | .badKey reason => "Invalid key material: " ++ reason

end DirectoryFailure

/-- Reads a key of 32 bytes. -/
def readKey (hex : String) : Except DirectoryFailure Bytes :=
  match Text.Hex.decode hex with
  | .error e => .error (.badKey e.message)
  | .ok bytes =>
    if bytes.length = 32 then .ok bytes
    else .error (.badKey ("expected 32 bytes, got " ++ toString bytes.length))

/-- The X25519 key of a node. -/
def Node.layerKey (n : Node) : Except DirectoryFailure Bytes := readKey n.keys.x25519

end OnionSwarm

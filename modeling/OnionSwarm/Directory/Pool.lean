/-
The pool: all nodes of the network that the client knows.

A seed answers with the list of nodes in service.  The guards of the paths are taken from the pool
in such a way that at least one node stays that is no guard.
-/
import OnionSwarm.Dice
import OnionSwarm.Directory.Failure
import OnionSwarm.Json.Written
import OnionSwarm.Node.Entry

namespace OnionSwarm.Pool

/-- The nodes in the reply of a seed. -/
def ofSeedReply (body : Bytes) : Except DirectoryFailure (List Node) :=
  match Json.parse body with
  | .error e => .error (.seedFailed ("invalid JSON: " ++ e.message body))
  | .ok reply =>
    match ((reply.get? "result").bind (Json.get? "service_node_states")).bind Json.asArray? with
    | none => .error (.seedFailed "missing service_node_states")
    | some entries =>
      match Node.ofEntries entries with
      | [] => .error (.seedFailed "seed returned no usable nodes")
      | nodes => .ok nodes

/-- The pool without the nodes of an Ed25519 key. -/
def without (pool : List Node) (key : String) : List Node := pool.filter fun n => n.key != key

/-- Is there a node with this Ed25519 key? -/
def hasKey (pool : List Node) (key : String) : Bool := pool.any fun n => n.key == key

/-- Adds random nodes of the pool to the guards until there are `target`.  A failure tells how many
nodes would do, as a natural number; a 64-bit word has no room for it only if as many guards are
needed as the last word says. -/
def topUp (d : Dice) (pool guards : List Node) (target : Nat) :
    Except DirectoryFailure (List Node) × Dice :=
  if target ≤ guards.length then (.ok guards, d)
  else
    let unused := Node.outside pool guards
    let needed := target - guards.length
    if unused.length ≤ needed then (.error (.tooFewNodes (needed + 1) unused.length), d)
    else
      let (more, d) := d.sample needed unused
      (.ok (guards ++ more), d)

end OnionSwarm.Pool

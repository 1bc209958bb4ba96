/-
Swarms in replies: the nodes that store an account's messages, as a node reports them.
-/
import OnionSwarm.Json.Written
import OnionSwarm.Node.Entry

namespace OnionSwarm.Swarm

/-- The swarm in a reply, if it has a list of nodes. -/
def ofReply? (reply : Json) : Option (List Node) :=
  ((reply.get? "snodes").bind Json.asArray?).map Node.ofEntries

/-- The swarm in the body of a refusal; empty if the body is none, no JSON, or has no list. -/
def ofBody (body : Option Bytes) : List Node :=
  match body with
  | none => []
  | some bytes =>
    match Json.parse bytes with
    | .error _ => []
    | .ok reply => (ofReply? reply).getD []

/-- The swarm without a node. -/
def without (swarm : List Node) (n : Node) : List Node := swarm.filter fun m => !m.same n

end OnionSwarm.Swarm

/-
Service nodes.

A node relays onion requests and stores the messages of the accounts in its swarm.  On the wire it
is named by its Ed25519 key, but two entries are the same node when they share their site, that is
address and port: a node that rotates its keys is not a second member of any list.
-/
import OnionSwarm.Text.Hex
import OnionSwarm.Text.Utf8

namespace OnionSwarm

/-- The public keys of a node, in hexadecimal. -/
structure NodeKeys where
  /-- Names the node to the hop before it. -/
  ed25519 : String
  /-- The key that onion layers for the node are encrypted to. -/
  x25519 : String
  deriving DecidableEq, Repr, Inhabited

/-- The version of a node's software. -/
structure Version where
  major : Nat
  minor : Nat
  patch : Nat
  deriving DecidableEq, Repr, Inhabited

namespace Version

/-- The version with its parts between points. -/
def render (v : Version) : String :=
  toString v.major ++ "." ++ toString v.minor ++ "." ++ toString v.patch

/-- The order of versions: the first part that differs decides. -/
def order (v w : Version) : Ordering :=
  ((compare v.major w.major).then (compare v.minor w.minor)).then (compare v.patch w.patch)

end Version

/-- A service node. -/
structure Node where
  /-- Scheme and host. -/
  address : String
  port : Nat
  keys : NodeKeys
  version : Version
  deriving DecidableEq, Repr, Inhabited

/-- Where a node is reached. -/
structure Site where
  address : String
  port : Nat
  deriving DecidableEq, Repr, Inhabited

namespace Node

/-- What makes two entries the same node. -/
def site (n : Node) : Site := ⟨n.address, n.port⟩

/-- Are two entries the same node? -/
def same (a b : Node) : Bool := a.site == b.site

/-- Does the list hold the node? -/
def isIn (n : Node) (nodes : List Node) : Bool := nodes.any (·.same n)

/-- The URL of the node, which is also its name in messages. -/
def url (n : Node) : String := n.address ++ ":" ++ toString n.port

/-- The Ed25519 key. -/
def key (n : Node) : String := n.keys.ed25519

/-- The nodes of a list that are not in another. -/
def outside (nodes others : List Node) : List Node := nodes.filter fun n => !n.isIn others

theorem isIn_iff {n : Node} {nodes : List Node} :
    n.isIn nodes = true ↔ n.site ∈ nodes.map site := by
  simp [isIn, same, List.any_eq_true]

theorem same_iff {a b : Node} : a.same b = true ↔ a.site = b.site := by
  simp [same]

end Node
end OnionSwarm

/-
Where an onion request ends: at a node, which reads the payload as a call, or at a server behind the
last hop, which reads it as a version 4 message.
-/
import OnionSwarm.Directory.Failure
import OnionSwarm.Json.Value

namespace OnionSwarm

/-- A server that is not a node. -/
structure Server where
  host : String
  /-- The path on the server that takes onion requests. -/
  target : String
  scheme : String
  port : Nat
  /-- The X25519 key of the server, in hexadecimal. -/
  x25519 : String
  deriving DecidableEq, Repr, Inhabited

/-- The end of an onion request. -/
inductive Destination where
  | node (n : Node)
  | server (s : Server)
  deriving DecidableEq, Repr

namespace Destination

/-- The key that the innermost layer is encrypted to. -/
def layerKey : Destination → Except DirectoryFailure Bytes
  | .node n => n.layerKey
  | .server s => readKey s.x25519

/-- The node, if the request ends at one. -/
def node? : Destination → Option Node
  | .node n => some n
  | .server _ => none

/-- What the last hop is told about where to go on. -/
def routing : Destination → Json
  | .node n => .ofMembers [("destination", .text n.key)]
  | .server s => .ofMembers [("host", .text s.host), ("target", .text s.target),
      ("method", .text "POST"), ("protocol", .text s.scheme), ("port", .nat s.port)]

/-- The destination in messages. -/
def render : Destination → String
  | .node n => "snode " ++ n.url
  | .server s => "server " ++ s.scheme ++ "://" ++ s.host ++ ":" ++ toString s.port

end Destination
end OnionSwarm

/-
The calls of the client: to one node, or to any node of an account's swarm.
-/
import OnionSwarm.Json.Record
import OnionSwarm.Json.Render
import OnionSwarm.Node.Basic

namespace OnionSwarm

/-- A call as nodes read it. -/
structure NodeCall where
  method : String
  params : Json
  deriving Repr

namespace NodeCall

/-- The call as JSON. -/
def toJson (c : NodeCall) : Json :=
  .ofMembers [("method", .text c.method), ("params", c.params)]

/-- The call as bytes. -/
def toBytes (c : NodeCall) : Bytes := c.toJson.toBytes

/-- Asks a seed for all nodes in service. -/
def listNodes : NodeCall :=
  ⟨"get_n_service_nodes", .ofMembers
    [("active_only", .bool true),
     ("fields", .ofMembers
       [("public_ip", .bool true), ("storage_port", .bool true), ("pubkey_ed25519", .bool true),
        ("pubkey_x25519", .bool true), ("storage_server_version", .bool true)])]⟩

/-- Asks a node for the swarm of an account. -/
def findSwarm (account : String) : NodeCall :=
  ⟨"get_snodes_for_pubkey", .ofMembers [("pubkey", .text account)]⟩

/-- Asks a node for its state, the network time included. -/
def info : NodeCall := ⟨"info", .object []⟩

/-- How a call is read; the parameters may be left out. -/
def record : Json.Record NodeCall :=
  mk <$> .required "method" Json.Written.asString
    <*> .optional "params" .null (Json.Written.value? (Json.deepest - 1))

/-- Reads the text of a call. -/
def parse (bytes : Bytes) : Except Json.ReadError NodeCall :=
  Json.Written.readAs (record.read "a call") bytes

end NodeCall

/-- A call to the swarm of an account. -/
structure SwarmCall where
  account : String
  call : NodeCall
  /-- The one node that may answer; no other takes its place when it fails. -/
  forced : Option Node
  deriving Repr

end OnionSwarm

/-
Nodes as they are kept in the store: a record with its fields in the order of their declaration.
-/
import OnionSwarm.Json.Record
import OnionSwarm.Json.Render
import OnionSwarm.Node.Basic

namespace OnionSwarm

open Json (Record)

/-- The keys as JSON. -/
def NodeKeys.toJson (k : NodeKeys) : Json :=
  .object [("ed25519", .text k.ed25519), ("x25519", .text k.x25519)]

/-- The version as JSON. -/
def Version.toJson (v : Version) : Json :=
  .array [.nat v.major, .nat v.minor, .nat v.patch]

/-- The node as JSON. -/
def Node.toJson (n : Node) : Json :=
  .object [("address", .text n.address), ("port", .nat n.port), ("keys", n.keys.toJson),
    ("version", n.version.toJson)]

/-- How keys are read. -/
def NodeKeys.record : Record NodeKeys :=
  NodeKeys.mk <$> .required "ed25519" Json.Written.asString
    <*> .required "x25519" Json.Written.asString

/-- Reads a version: exactly three parts. -/
def Version.ofWritten (w : Json.Written) : Except Json.ReadError Version := do
  match ← w.asList (Json.Written.asNat Text.Decimal.last16 "a part of a version") with
  | [major, minor, patch] => return ⟨major, minor, patch⟩
  | parts => Json.fail (.wrongLength parts.length "an array of length 3")

/-- How a node is read; the version may be left out. -/
def Node.record : Record Node :=
  Node.mk <$> .required "address" Json.Written.asString
    <*> .required "port" (Json.Written.asNat Text.Decimal.last16 "a port")
    <*> .required "keys" (NodeKeys.record.read "the keys of a node")
    <*> .optional "version" ⟨0, 0, 0⟩ Version.ofWritten

/-- Reads a node. -/
def Node.ofWritten (w : Json.Written) : Except Json.ReadError Node := Node.record.read "a node" w

/-- The text that a list of nodes is kept as. -/
def Node.writeList (nodes : List Node) : Bytes :=
  (Json.array (nodes.map Node.toJson)).toBytes

/-- Reads the text of a list of nodes. -/
def Node.readList (text : Bytes) : Except Json.ReadError (List Node) :=
  Json.Written.readAs (Json.Written.asList Node.ofWritten) text

end OnionSwarm

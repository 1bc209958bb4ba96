/-
Reports on nodes and plain data, as JSON for programs that watch the client.
-/
import OnionSwarm.Json.Render
import OnionSwarm.Node.Basic

namespace OnionSwarm.Report

/-- A byte string: its hexadecimal text, or null for none. -/
def bytes? : Option Bytes → Json
  | some b => .text (Text.Hex.encode b)
  | none => .null

/-- A text, or null for none. -/
def text? : Option String → Json
  | some s => .text s
  | none => .null

/-- A number, or null for none. -/
def nat? : Option Nat → Json
  | some n => .nat n
  | none => .null

/-- A value as the text of its compact form. -/
def written (v : Json) : Json := .text v.render

/-- How many characters of a key are enough to know a node by. -/
def tagLength : Nat := 8

/-- The short form of a node: its URL and the beginning of its Ed25519 key. -/
def tag (n : Node) : Json :=
  .text (n.url ++ "#" ++ String.ofList (n.key.toList.take tagLength))

/-- The short form of a node, or null for none. -/
def tag? : Option Node → Json
  | some n => tag n
  | none => .null

/-- The short forms of nodes. -/
def tags (nodes : List Node) : Json := .array (nodes.map tag)

/-- The short forms of nodes in alphabetical order. -/
def sortedTags (nodes : List Node) : Json :=
  .array (((nodes.map fun n => (tag n).asText?.getD "").mergeSort (· ≤ ·)).map .text)

/-- All fields of a node. -/
def node (n : Node) : Json :=
  .ofMembers [("address", .text n.address), ("port", .nat n.port),
    ("ed25519", .text n.keys.ed25519),
    ("x25519", .text n.keys.x25519), ("version", .text n.version.render)]

/-- All fields of a node, or null for none. -/
def node? : Option Node → Json
  | some n => node n
  | none => .null

end OnionSwarm.Report

/-
Nodes in the replies of directories.

Seeds and swarms spell the address and the port of a node in two ways.  An entry that is incomplete,
that cannot be reached, or whose keys are no keys is passed over, and of several entries for one
node the first counts.
-/
import OnionSwarm.Json.Value
import OnionSwarm.Node.Basic
import OnionSwarm.Text.Blank
import OnionSwarm.Text.Decimal

namespace OnionSwarm.Node

/-- How many digits a key has. -/
def keyDigits : Nat := 64

/-- Is the text a key of 32 bytes in hexadecimal? -/
def isKey (text : String) : Bool :=
  let bytes := Bytes.ofString text
  bytes.length == keyDigits && Text.Hex.isDigits bytes

/-- Hosts that no node can be reached at. -/
def unroutable : List String := ["", "0.0.0.0", "255.255.255.255"]

/-- Does the text name its scheme, http or https? -/
def hasScheme (text : String) : Bool :=
  "http://".toList.isPrefixOf text.toList || "https://".toList.isPrefixOf text.toList

/-- The address of an entry, which may spell it in two ways; the first that is there decides. -/
def entryHost? (entry : Json) : Option String := do
  let spelled ← (entry.get? "public_ip").or (entry.get? "ip")
  let host ← spelled.asText?.map Text.trim
  if host ∈ unroutable then none else some host

/-- The port of an entry, a number or a text of digits. -/
def entryPort? (entry : Json) : Option Nat := do
  let port ←
    match ← (entry.get? "storage_port").or (entry.get? "port") with
    | .number (.int i) => if 0 ≤ i ∧ i ≤ Text.Decimal.last16 then some i.toNat else none
    | .text s =>
      match Text.Decimal.parse Text.Decimal.last16 (Text.trim s) with
      | .ok n => some n
      | .error _ => none
    | _ => none
  if port = 0 then none else some port

/-- A key of an entry, in lower case. -/
def entryKey? (name : String) (entry : Json) : Option String := do
  let key ← (entry.get? name).bind Json.asText?
  if isKey key then some (String.ofList (key.toList.map Char.toLower)) else none

/-- A part of a version: what is no natural number counts as zero, what is too large as the largest
16-bit number. -/
def entryVersionPart (parts : List Json) (i : Nat) : Nat :=
  min ((parts[i]?.bind Json.asNat?).getD 0) Text.Decimal.last16

/-- The version of an entry, 0.0.0 if it has no list of parts. -/
def entryVersion (entry : Json) : Version :=
  let parts := ((entry.get? "storage_server_version").bind Json.asArray?).getD []
  ⟨entryVersionPart parts 0, entryVersionPart parts 1, entryVersionPart parts 2⟩

/-- The node of an entry. -/
def entryNode? (entry : Json) : Option Node := do
  let host ← entryHost? entry
  let port ← entryPort? entry
  let ed25519 ← entryKey? "pubkey_ed25519" entry
  let x25519 ← entryKey? "pubkey_x25519" entry
  some {
    address := if hasScheme host then host else "https://" ++ host
    port, keys := ⟨ed25519, x25519⟩, version := entryVersion entry }

/-- Adds a node at the end unless the list has it. -/
def insertNew (nodes : List Node) (n : Node) : List Node :=
  if n.isIn nodes then nodes else nodes ++ [n]

/-- The nodes of a list of entries, in order. -/
def ofEntries (entries : List Json) : List Node :=
  (entries.filterMap entryNode?).foldl insertNew []

end OnionSwarm.Node

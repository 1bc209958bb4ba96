/-
Pieces of a simulated world, read from JSON.

A scenario is written by hand, so it may say things briefly: a number stands for a node, long texts
are written as repetitions, bytes as text.  Nothing in it is checked; what is missing is empty.
-/
import OnionSwarm.Client.ServerApi
import OnionSwarm.Crypto.X25519
import OnionSwarm.Json.Access
import OnionSwarm.Simulation.Objects

namespace OnionSwarm.Scenario

/-! ### Plain data -/

/-- A text: a string, or a string repeated. -/
def text : Json → String
  | .text s => s
  | v => String.join (List.replicate (v.natAt "n" 0) ((v.field "repeat").asText?.getD ""))

/-- The text under a key. -/
def textAt (v : Json) (key : String) : String := text (v.field key)

/-- Bytes: those of a text, or what follows `hex:` in hexadecimal. -/
def bytes (v : Json) : Bytes :=
  let s := text v
  if s.startsWith "hex:" then (Text.Hex.decode (s.drop 4).toString).toOption.getD []
  else Bytes.ofString s

/-- The bytes under a key. -/
def bytesAt (v : Json) (key : String) : Bytes := bytes (v.field key)

/-- What is read under a key, if there is something. -/
def optional {α : Type} (v : Json) (key : String) (read : Json → α) : Option α :=
  if v.has key then some (read (v.field key)) else none

/-- The items of the array under a key. -/
def itemsAt (v : Json) (key : String) : List Json := (v.field key).items

/-- A number, zero if it is none. -/
def number (v : Json) : Nat := v.asNat?.getD 0

/-! ### Nodes and destinations -/

/-- A key of equal bytes. -/
def fill (n : Nat) : Bytes := Bytes.fill 32 (UInt8.ofNat (n % 256))

/-- The node with a number whose keys belong to nobody. -/
def plainNode (n : Nat) : Node :=
  let n := n % 256
  ⟨"https://10.0.0." ++ toString n, 22000 + n,
    ⟨Text.Hex.encode (fill n), Text.Hex.encode (fill (n + 100))⟩, ⟨2, 8, 0⟩⟩

/-- The public X25519 key of a secret of equal bytes. -/
def publicKey (secret : Nat) : String := Text.Hex.encode (X25519.publicKey (fill secret))

/-- The relay with a number, whose secret key consists of it. -/
def relay (n : Nat) : Node :=
  let n := n % 256
  ⟨"https://10.2.0." ++ toString n, 443, ⟨Text.Hex.encode (fill n), publicKey n⟩, ⟨2, 8, 0⟩⟩

/-- A version given by its three parts. -/
def version (v : Json) : Version :=
  match v.items.map number with
  | [a, b, c] => ⟨a, b, c⟩
  | _ => ⟨0, 0, 0⟩

/-- A node: a number, the number of a relay, or all fields. -/
def node (v : Json) : Node :=
  match v with
  | .number (.int i) => plainNode (i % 256).toNat
  | _ =>
    if v.has "sim" then relay (v.natAt "sim" 0)
    else
      ⟨textAt v "address", v.natAt "port" 0, ⟨textAt v "ed25519", textAt v "x25519"⟩,
        version (v.field "version")⟩

/-- The node under a key. -/
def nodeAt (v : Json) (key : String) : Node := node (v.field key)

/-- Nodes: a list, or a range of numbers. -/
def nodes (v : Json) : List Node :=
  match v with
  | .array vs => vs.map node
  | _ =>
    let first := v.natAt "from" 0
    (List.range (v.natAt "to" 0 - first)).map fun i => plainNode (first + i)

/-- The nodes under a key. -/
def nodesAt (v : Json) (key : String) : List Node := nodes (v.field key)

/-- A destination: a node or a server. -/
def destination (v : Json) : Destination :=
  if v.has "server" then
    let s := v.field "server"
    .server
      { host := textAt s "host", target := textAt s "target", scheme := textAt s "scheme"
        port := s.natAt "port" 0
        x25519 := if s.has "secret" then publicKey (s.natAt "secret" 0) else textAt s "x25519" }
  else .node (nodeAt v "snode")

/-! ### Failures -/

/-- An onion failure. -/
def onionFailure (v : Json) : OnionFailure :=
  let guardNode := nodeAt v "guard"
  let status : Status :=
    ⟨v.natAt "code" 0, optional v "message" text, optional v "body" bytes⟩
  let reason := textAt v "reason"
  match textAt v "kind" with
  | "GuardConnectionFailed" => .guardUnreachable guardNode reason
  | "GuardProtocolError" => .guardRefused guardNode status
  | "IntermediateNodeFailed" => .hopFailed guardNode (textAt v "key") status
  | "DestinationUnreachable" => .destinationUnreachable status
  | "DestinationError" => .destinationRefused status
  | "ClockOutOfSync" => .clockSkew status
  | "InvalidResponse" => .badReply reason
  | _ => .other reason

/-- A directory failure. -/
def directoryFailure (v : Json) : DirectoryFailure :=
  let s := textAt v "text"
  match textAt v "kind" with
  | "SeedBootstrap" => .seedFailed s
  | "NoSeeds" => .noSeeds
  | "EmptyPool" => .emptyPool
  | "InsufficientNodes" => .tooFewNodes (v.natAt "needed" 0) (v.natAt "available" 0)
  | "EmptySwarm" => .emptySwarm s
  | "SwarmTooSmall" => .swarmTooSmall s (v.natAt "size" 0)
  | "SwarmFetch" => .swarmFetchFailed s
  | _ => .badKey s

/-- A decision. -/
def decision? : Json → Option Decision
  | .text "Retry" => some .retry
  | .text "Fail" => some .fail
  | _ => none

/-- The failure of a call. -/
def failure (v : Json) : ApiFailure :=
  let base : ApiFailure :=
    if v.has "onion" then .onion (onionFailure (v.field "onion"))
    else if v.has "directory" then .directory (directoryFailure (v.field "directory"))
    else if v.has "path" then
      let p := v.field "path"
      .path (if p.has "duplicate" then .repeatedHop (nodeAt p "duplicate")
        else if p.has "directory" then .directory (directoryFailure (p.field "directory"))
        else .empty)
    else if v.has "unhandled" then
      let u := v.field "unhandled"
      .unhandled (u.natAt "code" 0) (optional u "body" text)
    else if v.has "malformed" then .malformed (textAt v "malformed")
    else .batch (textAt v "batch")
  match decision? (v.field "decision") with
  | some d => base.withDecision d
  | none => base

/-! ### Replies -/

/-- A reply: what is given as good, or a failure. -/
def reply {ε α : Type} (good : Json → α) (bad : Json → ε) (v : Json) : Except ε α :=
  match v.get? "ok" with
  | some w => .ok (good w)
  | none => .error (bad v)

/-- A reply that is a value. -/
def valueReply : Json → Except ApiFailure Json := reply id failure

/-- A reply along a path. -/
def onionReply (v : Json) : OnionReply :=
  ⟨v.natAt "code" 200, v.field "info", optional v "body" bytes⟩

/-- A reply of an HTTP server. -/
def httpReply (v : Json) : Except HttpFailure HttpReply :=
  if v.has "fail" then .error ⟨textAt v "fail"⟩
  else .ok ⟨v.natAt "status" 200, ((v.get? "json").map Json.toBytes).getD (bytesAt v "body")⟩

/-- A key, or the name of a hop of a path. -/
def hopKey (path : Option Path) (key : String) : String :=
  match path with
  | none => key
  | some p =>
    if key = "@guard" then p.guardNode.key
    else if key.startsWith "@hop" then
      (((key.drop 4).toNat?.bind fun i => p.hops[i]?).map Node.key).getD key
    else key

/-- A reply that may name hops of the path that it comes along. -/
def pathReply (v : Json) (path : Path) : Except OnionFailure OnionReply :=
  reply onionReply (fun v =>
    let f := v.field "onion"
    if !v.has "onion" then .other "script exhausted"
    else onionFailure
      (if f.has "key" then f.insert "key" (.text (hopKey (some path) (textAt f "key"))) else f)) v

/-! ### Calls -/

/-- A call to a node. -/
def call (v : Json) : NodeCall := ⟨textAt v "method", v.field "params"⟩

/-- A call to a swarm. -/
def swarmCall (v : Json) : SwarmCall := ⟨textAt v "account", call v, optional v "override" node⟩

/-- A request to a server: headers first, then JSON, then a body in its place. -/
def serverCall (v : Json) : ServerCall :=
  let c : ServerCall :=
    ⟨destination (v.field "dest"), textAt v "method", textAt v "endpoint", [], none⟩
  let c := (itemsAt v "headers").foldl (fun (c : ServerCall) h =>
    match h.items.map text with
    | [name, value] => c.withHeader name value
    | _ => c) c
  let c := ((v.get? "json").map c.withJson).getD c
  ((optional v "body" bytes).map fun b => { c with body := some b }).getD c

/-- An object to be kept in a swarm. -/
def object (v : Json) : Simulation.TrialObject :=
  let r := v.field "push"
  { name := textAt v "kind", nspace := v.intAt "namespace", dirty := v.boolAt "dirty" true
    revision :=
      if r.has "error" then .error (textAt r "error")
      else .ok ⟨bytesAt r "data", r.intAt "seq", (itemsAt r "obsolete").map text⟩ }

end OnionSwarm.Scenario

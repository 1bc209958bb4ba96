/-
A simulated network of nodes.

Every node has a real secret key: it opens its layer of a request and hands the rest on, or answers
the call that it finds.  Answers follow rules that can be given, and are otherwise those of a
healthy node.
-/
import OnionSwarm.Client.Network
import OnionSwarm.Onion.Peel
import OnionSwarm.Simulation.Objects

namespace OnionSwarm.Simulation

/-- A node and its secret key. -/
structure Relay where
  node : Node
  secret : Bytes

/-- How calls are answered. -/
structure Rule where
  method : String
  /-- The Ed25519 keys of the nodes that answer so; without a list, all nodes do. -/
  nodes : Option (List String)
  /-- How often the rule still holds; always if there is no number. -/
  left : Option Nat
  status : Nat
  body : Json

/-- A call that reached a node. -/
structure Delivery where
  node : Node
  call : NodeCall

/-- The network, and notes on what happened in it, the latest first. -/
structure RelayNetwork where
  relays : List Relay
  /-- The secret key of a server behind the last hop. -/
  server : Option Bytes
  rules : List Rule
  /-- The Ed25519 keys of nodes that cannot be reached. -/
  down : List String := []
  seedCalls : Nat := 0
  /-- What each hop of a request read. -/
  traces : List (List Json) := []
  delivered : List Delivery := []
  objects : List TrialObject := []
  /-- How often somebody looked at the clock. -/
  looks : Nat := 0
  /-- How many answers were sealed. -/
  answers : Nat := 0

namespace RelayNetwork

/-- The URL of the only seed. -/
def seedUrl : String := "https://seed.sim:4443/json_rpc"

/-- With these codes a node refuses a call as a whole, whatever other calls are in it. -/
def wholeCodes : List Nat := [401, 406, 421, 425]

/-- How many nodes are in every swarm. -/
def swarmSize : Nat := 5

/-- The time that nodes give. -/
def time : Nat := 1000000000000

/-- The time of the client's system. -/
def systemTime : Nat := 1760000000000

/-! ### Answers of nodes -/

/-- A node as seeds and nodes describe it. -/
def entry (n : Node) : Json :=
  .ofMembers
    [("public_ip", .text (n.address.dropPrefix "https://").toString),
     ("storage_port", .nat n.port),
     ("pubkey_ed25519", .text n.keys.ed25519),
     ("pubkey_x25519", .text n.keys.x25519),
     ("storage_server_version",
       .array [.nat n.version.major, .nat n.version.minor, .nat n.version.patch])]

/-- A swarm as nodes describe it. -/
def swarmBody (nodes : List Node) : Json := .ofMembers [("snodes", .array (nodes.map entry))]

/-- The answer of a healthy node. -/
def healthy (w : RelayNetwork) (call : NodeCall) : Nat × Json :=
  match call.method with
  | "info" => (200, .ofMembers [("timestamp", .nat time)])
  | "get_snodes_for_pubkey" => (200, swarmBody ((w.relays.take swarmSize).map Relay.node))
  | "retrieve" => (200, .ofMembers [("messages", .array []), ("echo", call.params)])
  | "store" =>
    (200, .ofMembers
      [("hash", .text ("hash-" ++ ((call.params.get? "timestamp").getD .null).render))])
  | "delete" => (200, .ofMembers [("deleted", .object [])])
  | other => (400, .text ("unknown method " ++ other))

/-- Does a rule hold for a call to a node? -/
def Rule.holds (r : Rule) (n : Node) (call : NodeCall) : Bool :=
  r.method == call.method && r.nodes.all (·.contains n.key) && r.left != some 0

/-- The answer of the first rule that holds, and the rules that are left. -/
def byRules (n : Node) (call : NodeCall) : List Rule → Option (Nat × Json) × List Rule
  | [] => (none, [])
  | r :: rest =>
    if Rule.holds r n call then
      (some (r.status, r.body), { r with left := r.left.map (· - 1) } :: rest)
    else
      let (answer, rest) := byRules n call rest
      (answer, r :: rest)

/-- The answer to one call. -/
def handle (n : Node) (call : NodeCall) : StateM RelayNetwork (Nat × Json) := fun w =>
  let (answer, rules) := byRules n call w.rules
  (answer.getD (w.healthy call), { w with rules })

/-- A call inside another one. -/
def innerCall (v : Json) : NodeCall :=
  ⟨((v.get? "method").bind Json.asText?).getD "", (v.get? "params").getD .null⟩

/-- The calls inside a call. -/
def innerCalls (params : Json) : List NodeCall :=
  (((params.get? "requests").bind Json.asArray?).getD []).map innerCall

/-- The results of calls inside another one, or the refusal of the whole. -/
def handleEach (n : Node) (stopsEarly : Bool) :
    List NodeCall → StateM RelayNetwork (Except (Nat × Json) (List Json))
  | [] => return .ok []
  | call :: rest => do
    let (code, body) ← handle n call
    if code ∈ wholeCodes then return .error (code, body)
    else
      let result := Json.ofMembers [("code", .nat code), ("body", body)]
      if stopsEarly && !isSuccess code then return .ok [result]
      else
        match ← handleEach n stopsEarly rest with
        | .error refusal => return .error refusal
        | .ok more => return .ok (result :: more)

/-- The answer to a call, which may hold others. -/
def answer (n : Node) (call : NodeCall) : StateM RelayNetwork (Nat × Json) := do
  if call.method = "batch" ∨ call.method = "sequence" then
    match ← handleEach n (call.method = "sequence") (innerCalls call.params) with
    | .error refusal => return refusal
    | .ok results => return (200, .ofMembers [("results", .array results)])
  else handle n call

/-- The answer of the server to a request. -/
def serve (info : Json) (body : Option Bytes) : Nat × Bytes :=
  let wanted := ((info.get? "headers").bind (Json.get? "x-code")).bind Json.asText?
  match wanted.bind fun s => (Text.Decimal.parse Text.Decimal.last16 s).toOption with
  | some code => (code, Bytes.ofString "refused by server")
  | none =>
    let shown : Json := (body.map fun b => Json.text (Text.Hex.encode b)).getD .null
    (200, (Json.ofMembers [("body", shown), ("info", info)]).toBytes)

/-! ### Relaying -/

/-- An answer in plain words. -/
def plain (status : Nat) (words : String) : HttpReply := ⟨status, Bytes.ofString words⟩

/-- An answer sealed for the client. -/
def sealReply (key : Bytes) (status : Nat) (body : Bytes) :
    StateM RelayNetwork HttpReply := fun w =>
  let message := Framing.encodeMessage (.ofMembers [("code", .nat status)]) (some body)
  (⟨200, LayerCipher.sealWith key (Bytes.littleEndian 24 w.answers) message⟩,
    { w with answers := w.answers + 1 })

/-- The key of the next layer, from what a hop read. -/
def nextEphemeral (routing : Json) : Bytes :=
  (((routing.get? "ephemeral_key").bind Json.asText?).bind fun s =>
    (Text.Hex.decode s).toOption).getD []

/-- A node finds a call and answers it. -/
def answerCall (n : Node) (payload key : Bytes) : StateM RelayNetwork HttpReply := do
  let call := innerCall ((Json.parse payload).toOption.getD .null)
  modify fun w => { w with delivered := ⟨n, call⟩ :: w.delivered }
  let (status, body) ← answer n call
  sealReply key status body.toBytes

/-- What a hop read, if it is to hand the rest on. -/
def onward? (plaintext : Bytes) : Option (Bytes × Json) := do
  let (inner, routing) ← (Framing.decodePayload plaintext).toOption
  if (routing.get? "ephemeral_key").isSome then some (inner, routing) else none

/-- The server behind the last hop gets a request. -/
def answerServer (inner ephemeral : Bytes) : StateM RelayNetwork HttpReply := do
  match (← get).server with
  | none => return plain 502 "No server behind this node"
  | some secret =>
    match LayerCipher.openLayer secret ephemeral inner with
    | .error _ => return plain 400 "Server could not decrypt request"
    | .ok (request, key) =>
      let (info, body) := (Framing.decodeMessage request).toOption.getD (.null, none)
      let (status, reply) := serve info body
      sealReply key status reply

/-- A node opens its layer and hands the rest on, or answers; also says what each hop read.  A layer
is longer than what is in it, so `layers` never has to be more than the length of the first one. -/
def relay : (layers : Nat) → Relay → (ciphertext ephemeral : Bytes) →
    StateM RelayNetwork (HttpReply × List Json)
  | 0, _, _, _ => return (plain 400 "Failed to decrypt onion layer", [])
  | layers + 1, r, ciphertext, ephemeral => do
    match LayerCipher.openLayer r.secret ephemeral ciphertext with
    | .error _ => return (plain 400 "Failed to decrypt onion layer", [])
    | .ok (plaintext, key) =>
      match onward? plaintext with
      | none => return (← answerCall r.node plaintext key, [])
      | some (inner, routing) =>
        match (routing.get? "destination").bind Json.asText? with
        | none => return (← answerServer inner (nextEphemeral routing), [routing])
        | some next =>
          let w ← get
          match w.relays.find? (·.node.key == next) with
          | none => return (plain 502 ("Next node not found: " ++ next), [routing])
          | some onto =>
            if next ∈ w.down then
              return (plain 502 ("Next node is currently unreachable: " ++ next), [routing])
            else
              let (reply, trace) ← relay layers onto inner (nextEphemeral routing)
              return (reply, routing :: trace)

/-- The answer of the seed. -/
def seedReply (w : RelayNetwork) : HttpReply :=
  let states := Json.array (w.relays.map (entry ·.node))
  ⟨200, (Json.ofMembers [("result", .ofMembers [("service_node_states", states)])]).toBytes⟩

/-- The URL of the guard that a request goes to. -/
def guardUrl? (url : String) : Option String :=
  if url.endsWith "/onion_req/v2" then some (url.dropEnd "/onion_req/v2".length).toString else none

/-- An HTTP request to the seed or to a guard. -/
def post : HttpPost RelayNetwork := fun url body => do
  let w ← get
  if url = seedUrl then
    set { w with seedCalls := w.seedCalls + 1 }
    return .ok w.seedReply
  else
    match guardUrl? url with
    | none => return .error ⟨"unexpected url " ++ url⟩
    | some guardUrl =>
      match w.relays.find? (·.node.url == guardUrl) with
      | none => return .error ⟨"no route to " ++ guardUrl⟩
      | some guardRelay =>
        if guardRelay.node.key ∈ w.down then return .error ⟨"connection refused"⟩
        else
          match Framing.decodePayload body with
          | .error e => return .error ⟨e.message⟩
          | .ok (ciphertext, envelope) =>
            let (reply, trace) ←
              relay ciphertext.length guardRelay ciphertext (nextEphemeral envelope)
            modify fun w => { w with traces := trace :: w.traces }
            return .ok reply

/-- The clocks of a simulated network.  Looking at the client's own clock takes a nanosecond, and
waiting takes no time at all: the pauses between attempts are passed over and neither clock shows
them. -/
def timer : Timer RelayNetwork where
  instant w := (w.looks, { w with looks := w.looks + 1 })
  system w := (systemTime, w)
  pass _ := return ()

/-- The objects of a simulated network. -/
def kept (objects : List TrialObject) : List (KeptObject RelayNetwork) :=
  TrialObject.kept RelayNetwork.objects (fun w objects => { w with objects }) objects

end RelayNetwork
end OnionSwarm.Simulation

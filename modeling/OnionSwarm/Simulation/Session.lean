/-
A client on a simulated network, step by step.

Every step is reported with what it came to and what was seen of it in the network.  Which nodes
take part is left to chance, so a report names them only where chance has no say.
-/
import OnionSwarm.Crypto.Chance
import OnionSwarm.Report.Reply
import OnionSwarm.Simulation.Relays
import OnionSwarm.Simulation.Scenario

namespace OnionSwarm.Simulation

/-- Nodes to be taken down. -/
inductive Victims where
  | these (nodes : List Node)
  | all
  | guards
  | pool

/-- One step. -/
inductive Step where
  | refresh
  | swarm (account : String)
  | toSwarms (calls : List SwarmCall)
  | toNode (node : Node) (call : NodeCall)
  | toServer (call : ServerCall)
  | down (victims : Victims)
  | path
  | rules (rules : List Rule)
  | resync
  | sync (secret : Bytes) (objects : List TrialObject) (notifications : Option Nat)
  | store

namespace Step

open Scenario

/-- A rule. -/
def readRule (v : Json) : Rule :=
  { method := textAt v "method"
    nodes := optional v "nodes" fun ns => ns.items.map fun n => Text.Hex.encode (fill (number n))
    left := optional v "times" number
    status := v.natAt "status" 200
    body := (optional v "swarm" fun s =>
      RelayNetwork.swarmBody (s.items.map fun n => relay (number n))).getD (v.field "body") }

/-- The rules under a key. -/
def readRules (v : Json) : List Rule := (itemsAt v "rules").map readRule

/-- The nodes to be taken down. -/
def readVictims (v : Json) : Victims :=
  match v with
  | .text "all" => .all
  | .text "guards" => .guards
  | .text "pool" => .pool
  | v => .these (v.items.map fun n => relay (number n))

/-- A step. -/
def read (v : Json) : Step :=
  match textAt v "do" with
  | "refresh" => .refresh
  | "swarm" => .swarm (textAt v "account")
  | "to_swarm" =>
    .toSwarms (if v.has "requests" then (itemsAt v "requests").map swarmCall else [swarmCall v])
  | "to_snode" => .toNode (nodeAt v "node") (call v)
  | "to_server" => .toServer (serverCall v)
  | "down" => .down (readVictims (v.field "which"))
  | "path" => .path
  | "rules" => .rules (readRules v)
  | "resync" => .resync
  | "sync" =>
    .sync (bytesAt v "secret") ((itemsAt v "configs").map object) (optional v "notify" number)
  | _ => .store

end Step

namespace RelayNetwork

/-- The network with relays of these numbers: one, two, and so on, as long as there are numbers of
one byte. -/
def ofSize (size : Nat) (server : Option Bytes) (rules : List Rule) : RelayNetwork :=
  { relays := (List.range (size % 256)).map fun i => ⟨Scenario.relay (i + 1), Scenario.fill (i + 1)⟩
    server, rules }

/-- Settings for a simulated network: its seed, three attempts, no waiting. -/
def settings : NetworkConfig :=
  { NetworkConfig.standard with
    environment := .custom [seedUrl]
    retry := ⟨3, .none⟩ }

/-- The settings with some of them given otherwise. -/
def settingsWith (changes : Json) : Except ConfigFailure NetworkConfig :=
  NetworkConfig.parse
    (.ofMembers (settings.toJson.members ++ changes.members) : Json).render

/-- The client on the network, with chance that can be repeated. -/
def client (config : NetworkConfig) : Network RelayNetwork :=
  { config, seedPost := post, onionPost := post
    cipher := LayerCipher.standard (.ofSeed (Scenario.fill 5)), timer }

/-! ### Names of nodes -/

/-- Does a name stand in a text? -/
def occurs (name : List Char) : List Char → Bool
  | [] => name.isEmpty
  | c :: rest => name.isPrefixOf (c :: rest) || occurs name rest

/-- Does a text name a relay? -/
def mentions (text : List Char) (n : Node) : Bool :=
  occurs n.url.toList text || occurs n.key.toList text

/-- A text in which a relay is not named. -/
def hideRelay (s : String) (n : Node) : String :=
  let tag := (Report.tag n).asText?.getD ""
  ((s.replace tag "<node>").replace n.url "<node>").replace n.key "<key>"

/-- A text in which none of some relays is named. -/
def hideAll (relays : List Node) (s : String) : String :=
  let text := s.toList
  (relays.filter (mentions text)).foldl hideRelay s

/-- A value in which no relay is named but one. -/
def hide (w : RelayNetwork) (spared : Option Node) : Json → Json :=
  let hidden := (w.relays.map Relay.node).filter fun n => !spared.any n.same
  Json.mapTexts (hideAll hidden)

/-! ### Steps -/

/-- What an operation came to: a list of nodes, or why there is none. -/
def nodesOr {ε : Type} (w : RelayNetwork) (bad : ε → Json) : Except ε (List Node) → Json
  | .ok nodes => Report.tags nodes
  | .error e => w.hide none (bad e)

/-- The nodes to be taken down. -/
def chosen (c : Client RelayNetwork) : Victims → List Node
  | .these nodes => nodes
  | .all => c.outside.relays.map Relay.node
  | .guards => c.guards
  | .pool => c.store.viewPool

/-- Objects as they are after a round. -/
def objectReport (o : TrialObject) : Json :=
  .ofMembers [("kind", .text o.name), ("dirty", .bool o.dirty),
    ("confirmed", .array (o.confirmed.map fun e => .array [.number (.int e.1), .text e.2]))]

/-- The unit in which the time is reported, in milliseconds. -/
def coarse : Nat := 1000000

/-- Does a step, and says what it came to. -/
def perform (n : Network RelayNetwork) (s : Step) : Work RelayNetwork Json := do
  let w := (← get).outside
  match s with
  | .refresh => return w.nodesOr Report.directory (← n.refreshPool)
  | .swarm account => return w.nodesOr Report.directory (← n.findSwarm account)
  | .toSwarms calls =>
    return w.hide none (.array ((← n.sendToSwarms calls).map Report.outcome))
  | .toNode node call => return w.hide (some node) (Report.outcome (← n.sendToNode node call))
  | .toServer call =>
    return w.hide none (Report.result Report.api Report.serverReply (← n.sendToServer call))
  | .down victims =>
    let nodes := chosen (← get) victims
    modify fun c => { c with outside := { c.outside with down := nodes.map Node.key ++ w.down } }
    return .nat nodes.length
  | .path =>
    return w.hide none (Report.result Report.path (fun p => .ofMembers
      [("len", .nat p.length), ("distinct", .nat (p.hops.map Node.site).eraseDups.length)])
      (← n.buildPath))
  | .rules rules =>
    modify fun c => { c with outside := { c.outside with rules } }
    return .null
  | .resync =>
    let found ← n.resync
    let time ← if (← get).reading.isSome then n.now else pure 0
    return .ofMembers [("ok", .bool found), ("now", .nat (time / coarse))]
  | .sync secret objects notifications =>
    match Identity.ofBytes secret with
    | .error e => return Report.crypto e
    | .ok who =>
      modify fun c => { c with outside := { c.outside with objects } }
      let backup := n.backup who (kept objects)
      let report ←
        match notifications with
        | some count => (fun _ => Json.text "stopped") <$> backup.serve count
        | none => Report.round <$> backup.pushPending
      let objects := (← get).outside.objects
      return w.hide none (.ofMembers
        [("report", report), ("configs", .array (objects.map objectReport))])
  | .store =>
    let c ← get
    return .ofMembers [("accounts", .nat c.store.accounts.length),
      ("path_size", .nat n.config.pathSize.toNat)]

/-- Is the order of what was delivered left to chance? -/
def anyOrder : Step → Bool
  | .toNode _ _ => false
  | _ => true

/-- A delivered call: its method, and how many calls were in it. -/
def delivery (d : Delivery) : String × Nat := (d.call.method, (innerCalls d.call.params).length)

/-- What was delivered in a step. -/
def deliveries (s : Step) (w : RelayNetwork) : Json :=
  let all := w.delivered.reverse.map delivery
  let all := if anyOrder s then
      all.mergeSort fun a b => a.1 < b.1 || (a.1 == b.1 && a.2 ≤ b.2)
    else all
  .array (all.map fun d => .array [.text d.1, .nat d.2])

/-- The swarm of an account that a step asks to be shown, and its size. -/
def shownSwarm (v : Json) : Act RelayNetwork (List (String × Json)) := do
  let tags ←
    if v.has "cached" then
      pure [("cached", Report.tags (← Act.swarm (Scenario.textAt v "cached")))]
    else pure []
  let size ←
    if v.has "cached_len" then
      pure [("cached_len", Json.nat (← Act.swarm (Scenario.textAt v "cached_len")).length)]
    else pure []
  return tags ++ size

/-- Does a step that is given as JSON, and reports on it. -/
def report (n : Network RelayNetwork) (v : Json) : Act RelayNetwork Json := do
  let s := Step.read v
  modify fun c => { c with outside := { c.outside with traces := [], delivered := [] } }
  let result ← n.await (perform n s)
  let shown ← shownSwarm v
  let c ← get
  return .ofMembers ([("result", result), ("seed_calls", .nat c.outside.seedCalls),
    ("delivered", deliveries s c.outside),
    ("hops", .array (c.outside.traces.reverse.map fun t => .nat t.length)),
    ("guards", .nat c.guards.length), ("pool", .nat c.store.viewPool.length),
    ("synced", .bool c.reading.isSome)] ++ shown)

/-- A whole session that is given as JSON. -/
def session (v : Json) (dice : Dice) : Except ConfigFailure (List Json) := do
  let config ← settingsWith (v.field "config")
  config.validate
  let server := Scenario.optional v "server" fun s => Scenario.fill (Scenario.number s)
  let w := ofSize (v.natAt "nodes" 20) server (Step.readRules v)
  let steps := (Scenario.itemsAt v "steps").mapM (report (client config))
  return (steps (Client.start Disk.empty dice w)).1

end RelayNetwork
end OnionSwarm.Simulation

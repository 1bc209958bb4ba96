/-
The client as a whole: every layer over the one below it.

Calls to swarms are gathered into batches, tried again, bound to a node of the swarm, judged by the
node's answer, and sent along a path.  Calls to nodes, and requests to servers, are tried again and
sent along a path; so are questions about swarms.
-/
import OnionSwarm.Client.Batching
import OnionSwarm.Client.Clock
import OnionSwarm.Client.Backup
import OnionSwarm.Client.Retrying
import OnionSwarm.Client.Rpc
import OnionSwarm.Client.ServerApi
import OnionSwarm.Client.SwarmApi
import OnionSwarm.Config.Network

namespace OnionSwarm

/-- The settings, and what the client needs from outside. -/
structure Network (ω : Type) where
  config : NetworkConfig
  /-- How seeds are asked. -/
  seedPost : HttpPost ω
  /-- How guards are asked. -/
  onionPost : HttpPost ω
  cipher : LayerCipher
  timer : Timer ω

namespace Network

variable {ω : Type}

/-- Where the pool comes from. -/
def pool (n : Network ω) : SeedSource ω :=
  ⟨n.config.environment.seeds, n.config.minPoolSize.toNat, n.seedPost⟩

/-- What paths look like. -/
def plan (n : Network ω) : PathPlan :=
  .ofSizes n.config.pathSize.toNat n.config.guardCount.toNat

/-- Payloads along paths. -/
def transport (n : Network ω) : Transport ω := Transport.ofCipher n.cipher n.onionPost

/-- Calls to nodes, each along a new path. -/
def rpc (n : Network ω) : NodeRpc ω := NodeRpc.overOnion n.pool n.plan n.transport

/-- Nanoseconds in a second. -/
def second : Nat := 1000 * Clock.tick

/-- The clock. -/
def clock (n : Network ω) : ClockSource ω :=
  ⟨n.pool, fun node call => (·, Delay.zero) <$> n.rpc node call, n.timer,
    n.config.clockInterval.toNat * second⟩

/-- Tries a layer again as the settings say. -/
def retrying {Request Answer : Type} (n : Network ω)
    (inner : Request → Work ω (Except ApiFailure Answer)) :
    Request → Work ω (Except ApiFailure Answer) :=
  Retrying.send n.config.retry inner

/-- Calls to nodes, tried once. -/
def nodeApiOnce (n : Network ω) : NodeApi ω := NodeApi.send n.rpc n.clock.resync true

/-- Calls to nodes. -/
def nodeApi (n : Network ω) : NodeApi ω := fun node call =>
  n.retrying (fun (r : Node × NodeCall) => n.nodeApiOnce r.1 r.2) (node, call)

/-- Where swarms come from. -/
def swarms (n : Network ω) : SwarmSource ω := ⟨n.pool, n.nodeApi, n.config.minSwarmSize.toNat⟩

/-- Calls to swarms, none in a batch. -/
def swarmApiAlone (n : Network ω) : SwarmApi ω := n.retrying (SwarmApi.send n.swarms n.nodeApiOnce)

/-- How long a batch waits, in milliseconds. -/
def window (n : Network ω) : Nat := n.config.batchWindow.toNat

/-- Calls to swarms. -/
def swarmApi (n : Network ω) : SwarmApi ω :=
  Batching.send Batch.swarmRules n.swarmApiAlone n.window

/-- Requests to servers. -/
def serverApi (n : Network ω) : ServerCall → Work ω (Except ApiFailure ServerReply) :=
  n.retrying fun call => .ofAction (call.send n.pool n.plan n.transport)

/-! ### Operations -/

/-- Does some work to its end, waiting where it has to. -/
def await {α : Type} (n : Network ω) (work : Work ω α) : Act ω α :=
  work.run fun delay => Act.ofOutside (n.timer.pass delay)

/-- Asks a seed for the pool. -/
def refreshPool (n : Network ω) : Act ω (Except DirectoryFailure (List Node)) := n.pool.refresh

/-- A new path. -/
def buildPath (n : Network ω) : Act ω (Except PathFailure Path) := Paths.get n.pool n.plan none

/-- The swarm of an account. -/
def findSwarm (n : Network ω) (account : String) : Work ω (Except DirectoryFailure (List Node)) :=
  n.swarms.get account

/-- Sends calls of several callers to swarms at the same time. -/
def sendToSwarms (n : Network ω) (calls : List SwarmCall) :
    Work ω (List (Except ApiFailure Json)) :=
  Batching.sendAll Batch.swarmRules n.swarmApiAlone n.window calls

/-- Sends a call to the swarm of an account. -/
def sendToSwarm (n : Network ω) (call : SwarmCall) : Work ω (Except ApiFailure Json) :=
  Work.apart (n.swarmApi call)

/-- Sends a call to a node. -/
def sendToNode (n : Network ω) (node : Node) (call : NodeCall) : Work ω (Except ApiFailure Json) :=
  Work.apart (n.nodeApi node call)

/-- Sends a request to a server. -/
def sendToServer (n : Network ω) (call : ServerCall) : Work ω (Except ApiFailure ServerReply) :=
  Work.apart (n.serverApi call)

/-- Finds the time of the network. -/
def resync (n : Network ω) : Act ω Bool := n.clock.resync

/-- The time of the network, in milliseconds. -/
def now (n : Network ω) : Act ω Nat := ClockSource.now n.timer

/-- Objects kept in the swarm of an account. -/
def backup (n : Network ω) (who : Identity) (objects : List (KeptObject ω)) :
    ObjectBackup ω :=
  ⟨who, objects, n.swarms, n.swarmApi, n.now⟩

end Network
end OnionSwarm

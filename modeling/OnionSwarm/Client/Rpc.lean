/-
One call to one node along an onion path, and what its answer means for the node.

A call is sent along a path that the node itself is no part of.  If it fails, the path is judged at
once, because only here it is known which path it was.
-/
import OnionSwarm.Client.Paths

namespace OnionSwarm

variable {ω : Type}

/-- Sends payloads with the given cipher, never using a number for chance twice. -/
def Transport.ofCipher (cipher : LayerCipher) (post : HttpPost ω) : Transport ω :=
  fun path destination payload c =>
    let post' (url : String) (body : Bytes) : Act ω (Except HttpFailure HttpReply) :=
      Act.ofOutside (post url body)
    Exchange.send cipher post' c.turn path destination payload
      { c with turn := c.turn + path.length + 1 }

/-- Sends a call to a node along a new path. -/
def NodeRpc.overOnion (source : SeedSource ω) (plan : PathPlan) (transport : Transport ω) :
    NodeRpc ω := fun n call => do
  match ← Paths.get source plan (some n) with
  | .error e => return .error (.path e)
  | .ok path =>
    match ← transport path (.node n) call.toBytes with
    | .ok reply => return .ok reply
    | .error failure => return .error (← Paths.penalise path failure)

namespace NodeApi

/-- With status 502, a node says so that it cannot read what the daemon behind it answers. -/
def unparsable : String := "oxend returned unparsable data"

/-- With status 503, a node says so that it is not ready. -/
def notReady : String := "Snode not ready"

/-- Does a refusal mean that the node itself is faulty? -/
def isFaulty (status : Status) : Bool :=
  let text := (status.bodyText.getD "").toList
  (status.code == 502 && GuardReply.occurs unparsable.toList text) ||
    (status.code == 503 && GuardReply.occurs notReady.toList text)

/-- Is the failure a complaint about the time of the request? -/
def isSkew (failure : ApiFailure) : Bool :=
  match failure.onion? with
  | some (.clockSkew _) => true
  | _ => false

/-- Does the failure show that the node itself is faulty? -/
def showsFault (failure : ApiFailure) : Bool :=
  match failure.onion? with
  | some (.destinationRefused status) => isFaulty status
  | _ => false

/-- What is done about a failure.  The first complaint about the time since the last good reply asks
for the network time, and the call is tried again if that succeeds; the next one is final.  A faulty
node is given up, where that is allowed, and the call tried again. -/
def onFailure (resync : Act ω Bool) (dropsFaulty : Bool) (n : Node) (failure : ApiFailure) :
    Act ω ApiFailure := do
  if isSkew failure then
    if (← get).notes.contains .sawSkew then return failure.withDecision .fail
    else
      modify fun c => { c with notes := c.notes.set .sawSkew () }
      let synced ← resync
      return failure.withDecision (if synced then .retry else .fail)
  else if showsFault failure && dropsFaulty then
    Paths.dropKey n.key
    return failure.withDecision .retry
  else return failure

/-- Sends calls over the layer below and reads the answers as JSON. -/
def send (rpc : NodeRpc ω) (resync : Act ω Bool) (dropsFaulty : Bool) : NodeApi ω :=
  fun n call => do
    match ← rpc n call with
    | .ok reply =>
      modify fun c => { c with notes := c.notes.erase .sawSkew }
      match reply.json with
      | .ok v => return .ok v
      | .error e =>
        return .error (.malformed (call.method ++ ": " ++ e.message (reply.body.getD [])))
    | .error failure => return .error (← onFailure resync dropsFaulty n failure)

end NodeApi
end OnionSwarm

/-
A world made of prepared replies.

Every request gets the next reply of its kind, and is noted.  With it a layer of the client can be
run on its own: the layer below it is one of the functions of this module.
-/
import OnionSwarm.Client.Clock
import OnionSwarm.Simulation.Objects

namespace OnionSwarm.Simulation

/-- What a script says when it has no reply left. -/
def exhausted : String := "script exhausted"

/-- Replies that are still to come, and notes on what was asked, the latest first. -/
structure Script where
  /-- Replies to HTTP requests. -/
  http : List (Except HttpFailure HttpReply) := []
  posted : List (String × Bytes) := []
  /-- Replies along paths, each of which may depend on the path. -/
  onions : List (Path → Except OnionFailure OnionReply) := []
  sent : List (Path × Destination × Bytes) := []
  /-- Raw replies of nodes. -/
  replies : List (Except ApiFailure OnionReply) := []
  /-- Answers of nodes. -/
  answers : List (Except ApiFailure Json) := []
  calls : List (Node × NodeCall) := []
  swarmCalls : List SwarmCall := []
  /-- Answers to what is asked about swarms, where that is kept apart. -/
  swarms : List (Except ApiFailure Json) := []
  fetches : Nat := 0
  /-- How requests for the network time end; the last one stands for all further ones. -/
  resyncs : List Bool := []
  resynced : Nat := 0
  /-- Replies of the node with a port, and how long each takes; the last one stands for all further
  ones. -/
  timed : List (Nat × List (Except ApiFailure OnionReply × Nat)) := []
  objects : List TrialObject := []
  /-- The time that was spent waiting, in milliseconds, and when answers were asked for. -/
  now : Nat := 0
  asked : List Nat := []
  /-- How often somebody looked at the clock. -/
  looks : Nat := 0

namespace Script

/-- The next HTTP reply. -/
def post : HttpPost Script := fun url body s =>
  (s.http.headD (.error ⟨exhausted⟩),
    { s with http := s.http.tail, posted := (url, body) :: s.posted })

/-- The next reply along a path. -/
def transport : Transport Script := fun path destination payload => Act.ofOutside fun s =>
  ((s.onions.headD fun _ => .error (.other exhausted)) path,
    { s with onions := s.onions.tail, sent := (path, destination, payload) :: s.sent })

/-- The next raw reply of a node. -/
def rpc : NodeRpc Script := fun n call => Act.ofOutside fun s =>
  (s.replies.headD (.error (.malformed exhausted)),
    { s with replies := s.replies.tail, calls := (n, call) :: s.calls })

/-- The next answer, whoever is asked. -/
def answer : StateM Script (Except ApiFailure Json) := fun s =>
  (s.answers.headD (.error (.malformed exhausted)),
    { s with answers := s.answers.tail, asked := s.now :: s.asked })

/-- The next answer of a node. -/
def api : NodeApi Script := fun n call => .ofAction (Act.ofOutside fun s =>
  answer { s with calls := (n, call) :: s.calls })

/-- The next answer of a swarm. -/
def swarmApi : SwarmApi Script := fun c => .ofAction (Act.ofOutside fun s =>
  answer { s with swarmCalls := c :: s.swarmCalls })

/-- The next answer about a swarm. -/
def fetch : NodeApi Script := fun _ _ => .ofAction (Act.ofOutside fun s =>
  (s.swarms.headD (.error (.malformed exhausted)),
    { s with swarms := s.swarms.tail, fetches := s.fetches + 1 }))

/-- The end of the next request for the network time. -/
def resync : Act Script Bool := Act.ofOutside fun s =>
  (s.resyncs.headD true,
    { s with
      resyncs := if s.resyncs.length ≤ 1 then s.resyncs else s.resyncs.tail
      resynced := s.resynced + 1 })

/-- The longest time that the timer waits at once, in milliseconds: thirty years. -/
def longestSleep : Nat := 30 * 365 * 24 * 60 * 60 * 1000

/-- Lets time pass, but no more at once than `longestSleep`. -/
def sleep (delay : Nat) : StateM Script Unit :=
  modify fun s => { s with now := s.now + min delay longestSleep }

/-- Does some work to its end. -/
def await {α : Type} (work : Work Script α) : Act Script α :=
  work.run fun delay => Act.ofOutside (sleep delay)

/-- The next reply of a node that may take its time, which only the timer sees. -/
def timedRpc : TimedRpc Script := fun n call => Act.ofOutside fun s =>
  let replies := (s.timed.lookup n.port).getD []
  let (reply, delay) := replies.headD (.error (.malformed exhausted), 0)
  ((reply, ⟨delay, 0⟩),
    { s with
      calls := (n, call) :: s.calls
      timed := if replies.length ≤ 1 then s.timed else (n.port, replies.tail) :: s.timed })

/-- The time of the system, in milliseconds. -/
def today : Nat := 1760000000000

/-- The clocks of a script.  Waiting is not seen by them, but looking at the client's own clock
takes a nanosecond. -/
def timer : Timer Script where
  instant s := (s.looks, { s with looks := s.looks + 1 })
  system s := (today, s)
  pass := sleep

/-- The objects of a script. -/
def kept (objects : List TrialObject) : List (KeptObject Script) :=
  TrialObject.kept Script.objects (fun s objects => { s with objects }) objects

end Script
end OnionSwarm.Simulation

/-
The clock of the client: the time of the network, asked of a few nodes at once.
-/
import OnionSwarm.Client.Pool
import OnionSwarm.Clock.Sample
import OnionSwarm.Clock.Turns

namespace OnionSwarm

/-- The clocks outside. -/
structure Timer (ω : Type) where
  /-- The client's own clock, in nanoseconds; it never goes back. -/
  instant : StateM ω Nat
  /-- The time of the system, in milliseconds. -/
  system : StateM ω Nat
  /-- Lets time pass, in milliseconds of the timer that ends pauses and waits.  Nothing is assumed
  of what the other clocks show meanwhile. -/
  pass : Nat → StateM ω Unit

/-- How long a reply took, in milliseconds. -/
structure Delay where
  /-- By the timer that ends waits. -/
  timer : Nat
  /-- By the client's own clock. -/
  clock : Nat
  deriving DecidableEq, Repr

/-- No time at all. -/
def Delay.zero : Delay := ⟨0, 0⟩

/-- Sends a call to a node; with the reply comes how long it took.  Time does not pass meanwhile,
because such calls are made side by side. -/
abbrev TimedRpc (ω : Type) := Node → NodeCall → Act ω (Except ApiFailure OnionReply × Delay)

/-- Where the time comes from. -/
structure ClockSource (ω : Type) where
  pool : SeedSource ω
  ask : TimedRpc ω
  timer : Timer ω
  /-- How long a time that was found is good enough, in nanoseconds. -/
  interval : Nat

namespace ClockSource

variable {ω : Type}

/-- The time in a node's reply. -/
def reported? (reply : Except ApiFailure OnionReply) : Option Nat := do
  let reply ← reply.toOption
  let body ← reply.json.toOption
  (body.get? "timestamp").bind Json.asNat?

/-- The answers among some replies that came after all of them had been asked for at once. -/
def answers (replies : List (Except ApiFailure OnionReply × Delay)) : List Clock.Answer :=
  let longest := (replies.map (·.2.clock)).foldl max 0
  replies.filterMap fun r => (reported? r.1).map fun time => ⟨time, r.2.clock, longest⟩

/-- Asks a few random nodes for the time; nothing if no one answers, or not all in time. -/
def sample (source : ClockSource ω) : Act ω (Option Nat) := do
  match ← source.pool.ensure with
  | .error _ => return none
  | .ok pool =>
    let nodes ← Act.ofDice (·.sample Clock.sampleSize pool)
    let replies ← nodes.mapM fun n => source.ask n .info
    let longest := (replies.map (·.2.timer)).foldl max 0
    if Clock.patience < longest then
      Act.ofOutside (source.timer.pass Clock.patience)
      return none
    else
      Act.ofOutside (source.timer.pass longest)
      return Clock.estimate? (answers replies)

/-- The turn of a call for the time that was requested at an instant: is the time known now? -/
def resyncSince (source : ClockSource ω) (requested : Nat) : Act ω Bool := do
  let now ← Act.ofOutside source.timer.instant
  match Clock.verdict source.interval (← get).lastSync requested now with
  | .found => return true
  | .tooSoon => return false
  | .ask =>
    match ← source.sample with
    | none => return false
    | some time =>
      let instant ← Act.ofOutside source.timer.instant
      modify fun c => { c with reading := some ⟨instant, time⟩, lastSync := some instant }
      return true

/-- Finds the time of the network. -/
def resync (source : ClockSource ω) : Act ω Bool := do
  source.resyncSince (← Act.ofOutside source.timer.instant)

/-- Several calls for the time at once, each taking its turn. -/
def resyncAll (source : ClockSource ω) (count : Nat) : Act ω (List Bool) := do
  let requested ← (List.replicate count source.timer.instant).mapM Act.ofOutside
  requested.mapM source.resyncSince

/-- The time of the network, or of the system as long as it was never found. -/
def now (timer : Timer ω) : Act ω Nat := do
  match (← get).reading with
  | some r => return r.timeAt (← Act.ofOutside timer.instant)
  | none => Act.ofOutside timer.system

/-- How far the time of the network is ahead of the system's, if it was ever found. -/
def offset (timer : Timer ω) : Act ω (Option Int) := do
  match (← get).reading with
  | some r =>
    let now ← Act.ofOutside timer.instant
    return some (r.offset now (← Act.ofOutside timer.system))
  | none => return none

end ClockSource
end OnionSwarm

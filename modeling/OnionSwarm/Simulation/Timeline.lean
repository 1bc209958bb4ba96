/-
Batching on a timeline.

Callers come and go at given times.  Between two incidents the batches that are due by then are
sent, the earliest first; an answer takes the time that the layer below needs for it.  A caller who
leaves before the answer is there gets none.

The first incident at some time comes before everything that is due at that very time; when the
next one comes, all of that has happened.  So a caller who leaves first thing gets no answer that is
due then, though a batch that is due then is still sent with his request in it.
-/
import OnionSwarm.Batch.Execute

namespace OnionSwarm.Simulation

open Batch

/-- How far a caller has come. -/
inductive Status (Answer : Type) where
  /-- The request waits in the batch of a key. -/
  | waiting (key : String)
  /-- The answer is there from some time on. -/
  | answered (time : Nat) (result : Except ApiFailure Answer)
  | cancelled

/-- What happens at some time. -/
inductive Incident (Request : Type) where
  | send (id : Nat) (request : Request)
  | cancel (id : Nat)

/-- What requests are sent through. -/
structure Gate (σ Request Item Answer : Type) where
  rules : Rules Request Item Answer
  /-- How long a batch waits. -/
  window : Nat
  /-- The layer below: its answer, and how long it takes. -/
  inner : Request → StateM σ (Except ApiFailure Answer × Nat)

/-- Everything at some time. -/
structure Timeline (σ Request Answer : Type) where
  waiting : Waiting Request
  callers : Table Nat (Status Answer)
  /-- When the layer below was called, and with what. -/
  calls : List (Nat × Request)
  /-- All that is due before this time has happened. -/
  next : Nat
  world : σ

namespace Timeline

variable {σ Request Item Answer : Type}

/-- Nobody has come. -/
def start (world : σ) : Timeline σ Request Answer := ⟨.empty, .empty, [], 0, world⟩

/-- The answers to some callers are there at a time; those who have left get none. -/
def settle (t : Timeline σ Request Answer) (time : Nat) (answers : Answers Answer) :
    Timeline σ Request Answer :=
  { t with
    callers := answers.foldl
      (fun callers a =>
        match callers.get? a.1 with
        | some .cancelled => callers
        | _ => callers.insert a.1 (.answered time a.2)) t.callers }

/-- Calls the layer below. -/
def call (gate : Gate σ Request Item Answer) (t : Timeline σ Request Answer) (now : Nat)
    (request : Request) : (Except ApiFailure Answer × Nat) × Timeline σ Request Answer :=
  let (reply, world) := gate.inner request t.world
  (reply, { t with calls := (now, request) :: t.calls, world })

/-- Sends a batch. -/
def sendBatch (gate : Gate σ Request Item Answer) (now : Nat) (t : Timeline σ Request Answer)
    (batch : Handed Request) : Timeline σ Request Answer :=
  let p := prepare gate.rules batch.members
  let t := t.settle now p.rejected
  match p.combined? gate.rules with
  | none => t
  | some request =>
    let ((answer, delay), t) := t.call gate now request
    t.settle (now + delay) (p.distribute gate.rules answer)

/-- Sends the batches that are due at the earliest time, if it is before `next`, again and again
until there is none, at most `rounds` times. -/
def sendDue (gate : Gate σ Request Item Answer) (next : Option Nat) :
    (rounds : Nat) → Timeline σ Request Answer → Timeline σ Request Answer
  | 0, t => t
  | rounds + 1, t =>
    match t.waiting.earliest? with
    | none => t
    | some time =>
      if next.all (time < ·) then
        let (batches, waiting) := t.waiting.step gate.window time .timer
        sendDue gate next rounds ((inOrder batches).foldl (sendBatch gate time) { t with waiting })
      else t

/-- Sends all batches that are due before `next`.  Each round sends at least one batch, so there
are enough rounds. -/
def advance (gate : Gate σ Request Item Answer) (next : Option Nat)
    (t : Timeline σ Request Answer) : Timeline σ Request Answer :=
  sendDue gate next t.waiting.entries.length t

/-- Lets everything happen that is due before `next`. -/
def pass (gate : Gate σ Request Item Answer) (next : Nat) (t : Timeline σ Request Answer) :
    Timeline σ Request Answer :=
  { t.advance gate (some next) with next := max t.next next }

/-- A caller comes. -/
def arrive (gate : Gate σ Request Item Answer) (now : Nat) (t : Timeline σ Request Answer)
    (id : Nat) (request : Request) : Timeline σ Request Answer :=
  match gate.rules.key? request with
  | none =>
    let ((answer, delay), t) := t.call gate now request
    { t with callers := t.callers.insert id (.answered (now + delay) answer) }
  | some key =>
    let t := t.pass gate (now + 1)
    { t with
      waiting := (t.waiting.step gate.window now (.send id key request)).2
      callers := t.callers.insert id (.waiting key) }

/-- A caller leaves, unless he has his answer. -/
def leave (gate : Gate σ Request Item Answer) (now : Nat) (t : Timeline σ Request Answer)
    (id : Nat) : Timeline σ Request Answer :=
  let gone : Timeline σ Request Answer := { t with callers := t.callers.insert id .cancelled }
  match t.callers.get? id with
  | some (.waiting key) =>
    let t := gone.pass gate (now + 1)
    { t with waiting := (t.waiting.step gate.window now (.cancel id key)).2 }
  | some (.answered time _) => if time < t.next then t else gone
  | _ => t

/-- Something happens at a given time. -/
def step (gate : Gate σ Request Item Answer) (t : Timeline σ Request Answer)
    (incident : Nat × Incident Request) : Timeline σ Request Answer :=
  let (now, incident) := incident
  let t := t.pass gate now
  let t :=
    match incident with
    | .send id request => t.arrive gate now id request
    | .cancel id => t.leave gate now id
  t.pass gate (now + 1)

/-- Runs incidents in the order of their times, and then what is left. -/
def run (gate : Gate σ Request Item Answer) (incidents : List (Nat × Incident Request))
    (world : σ) : Timeline σ Request Answer :=
  (incidents.foldl (step gate) (start world)).advance gate none

/-- All callers in the order of their numbers. -/
def outcomes (t : Timeline σ Request Answer) : List (Nat × Status Answer) :=
  t.callers.entries.mergeSort fun a b => a.1 ≤ b.1

/-- All calls of the layer below, the earliest first. -/
def history (t : Timeline σ Request Answer) : List (Nat × Request) := t.calls.reverse

end Timeline
end OnionSwarm.Simulation

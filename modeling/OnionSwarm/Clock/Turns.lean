/-
Who asks for the time, when several calls want it at once.

A call notes the time of its request and then waits for its turn.  In its turn it finds out what
became of the calls before it: if one of them found the time since the request, the call has what it
wanted; if the time was found shortly before the request, it is refused; otherwise it asks, and
holds its turn until it has an answer or gives up.  Only one call has its turn at a time.

Instants are those of the client's own clock, in nanoseconds.
-/
import OnionSwarm.Clock.Reading
import OnionSwarm.Table

namespace OnionSwarm.Clock

/-- What a call does in its turn. -/
inductive Verdict where
  /-- The time was found while the call waited. -/
  | found
  /-- The time was found too shortly before the request. -/
  | tooSoon
  /-- The call asks for the time. -/
  | ask
  deriving DecidableEq, Repr

/-- What a call does that was requested at one instant and has its turn at another. -/
def verdict (interval : Nat) (lastFound : Option Nat) (requested now : Nat) : Verdict :=
  match lastFound with
  | none => .ask
  | some last =>
    if requested ≤ last then .found
    else if now - last < interval then .tooSoon
    else .ask

/-- How far a call has come. -/
inductive Progress where
  | waiting (requested : Nat)
  | asking (requested : Nat)
  | done (found : Bool)
  deriving DecidableEq, Repr

/-- All calls, and what they have found. -/
structure Turns where
  calls : Table Nat Progress
  /-- The call that asks for the time. -/
  holder : Option Nat
  reading : Option Reading
  lastFound : Option Nat

/-- What happens. -/
inductive Event where
  /-- A call is made. -/
  | request (id now : Nat)
  /-- A call has its turn. -/
  | turn (id now : Nat)
  /-- The call that asks has the time, or gives up. -/
  | finish (now : Nat) (time : Option Nat)
  deriving DecidableEq, Repr

namespace Turns

/-- Nothing is known, and nobody has asked. -/
def start : Turns := ⟨.empty, none, none, none⟩

/-- A call enters its turn. -/
def enter (interval : Nat) (t : Turns) (id requested now : Nat) : Turns :=
  match verdict interval t.lastFound requested now with
  | .found => { t with calls := t.calls.insert id (.done true) }
  | .tooSoon => { t with calls := t.calls.insert id (.done false) }
  | .ask => { t with calls := t.calls.insert id (.asking requested), holder := some id }

/-- What an event leads to; nothing if it cannot happen. -/
def step (interval : Nat) (t : Turns) : Event → Option Turns
  | .request id now =>
    if t.calls.contains id then none
    else some { t with calls := t.calls.insert id (.waiting now) }
  | .turn id now =>
    match t.holder, t.calls.get? id with
    | none, some (.waiting requested) => some (t.enter interval id requested now)
    | _, _ => none
  | .finish now time =>
    match t.holder with
    | none => none
    | some id =>
      match time with
      | some time =>
        some { calls := t.calls.insert id (.done true), holder := none
               reading := some ⟨now, time⟩, lastFound := some now }
      | none => some { t with calls := t.calls.insert id (.done false), holder := none }

/-- What a sequence of events leads to; nothing if one of them cannot happen. -/
def run (interval : Nat) (t : Turns) : List Event → Option Turns
  | [] => some t
  | e :: rest => (t.step interval e).bind fun t => run interval t rest

end Turns

end OnionSwarm.Clock

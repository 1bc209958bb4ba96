/-
The state of the client, and the operations on it.

An operation may use and change everything that the client knows, and the world outside, of which
nothing is assumed: `ω` is any type, and what the client asks of the outside it asks through
functions on `ω` that it is given.  A statement about all such functions is one about all replies.

An operation that may have to wait is a job.  Other calls may go on while it does, so it finds all
that the client knows changed, except the notes of its own call.

The layers of the client are functions that take the layer below as an argument.
-/
import OnionSwarm.Api.Failure
import OnionSwarm.Api.Call
import OnionSwarm.Api.Scratch
import OnionSwarm.Clock.Reading
import OnionSwarm.Directory.Rounds
import OnionSwarm.Job
import OnionSwarm.Onion.Exchange
import OnionSwarm.Store.Basic

namespace OnionSwarm

/-- What is noted during a call. -/
inductive CallKey where
  /-- A reply since the last good one found the time of the request wrong. -/
  | sawSkew
  /-- The node that the call goes to. -/
  | pinnedNode
  /-- The call is not to be repeated. -/
  | singleAttempt
  deriving DecidableEq, Repr

/-- What is noted under each key. -/
abbrev CallKey.Value : CallKey → Type
  | .sawSkew => Unit
  | .pinnedNode => Node
  | .singleAttempt => Unit

/-- The notes of a call, kept through its attempts. -/
abbrev CallNotes := Scratch CallKey CallKey.Value

/-- All that the client knows, and the world outside. -/
structure Client (ω : Type) where
  store : Store
  rounds : Rounds
  guards : List Node
  dice : Dice
  /-- How many layers were encrypted. -/
  turn : Nat
  /-- The last network time that was found. -/
  reading : Option Reading
  /-- When it was found. -/
  lastSync : Option Nat
  notes : CallNotes
  outside : ω

/-- An operation of the client. -/
abbrev Act (ω α : Type) := StateM (Client ω) α

/-- An operation of the client that may have to wait. -/
abbrev Work (ω α : Type) := Job (Client ω) α

/-- A client that knows nothing but its storage. -/
def Client.start {ω : Type} (disk : Disk) (dice : Dice) (outside : ω) : Client ω :=
  { store := .fresh disk, rounds := .empty, guards := [], dice, turn := 0, reading := none
    lastSync := none, notes := .empty, outside }

/-- Sends a call to a node and gives its raw reply. -/
abbrev NodeRpc (ω : Type) := Node → NodeCall → Act ω (Except ApiFailure OnionReply)

/-- Sends a call to a node and gives its answer. -/
abbrev NodeApi (ω : Type) := Node → NodeCall → Work ω (Except ApiFailure Json)

/-- Sends a call to the swarm of an account. -/
abbrev SwarmApi (ω : Type) := SwarmCall → Work ω (Except ApiFailure Json)

/-- Sends a payload along a path. -/
abbrev Transport (ω : Type) :=
  Path → Destination → Bytes → Act ω (Except OnionFailure OnionReply)

/-- Makes an HTTP request. -/
abbrev HttpPost (ω : Type) := String → Bytes → StateM ω (Except HttpFailure HttpReply)

namespace Act

variable {ω α : Type}

/-- An action of the world outside. -/
def ofOutside (act : StateM ω α) : Act ω α := fun c =>
  let (a, outside) := act c.outside
  (a, { c with outside })

/-- A random choice. -/
def ofDice (choose : Dice → α × Dice) : Act ω α := fun c =>
  let (a, dice) := choose c.dice
  (a, { c with dice })

/-- The pool. -/
def pool : Act ω (List Node) := fun c => (c.store.viewPool, { c with store := c.store.notePool })

/-- The swarm of an account. -/
def swarm (account : String) : Act ω (List Node) := fun c =>
  (c.store.viewSwarm account, { c with store := c.store.noteSwarm account })

/-- Replaces the pool. -/
def setPool (nodes : List Node) : Act ω Unit := fun c =>
  ((), { c with store := c.store.setPool nodes })

/-- Replaces the swarm of an account, whose picks start over. -/
def setSwarm (account : String) (nodes : List Node) : Act ω Unit := fun c =>
  ((), { c with store := c.store.setSwarm account nodes, rounds := c.rounds.reset account })

end Act

namespace Work

variable {ω α : Type}

/-- Work on a call of its own goes on; outside it, the notes are those of somebody else. -/
def keep (others : CallNotes) : Progress (Client ω) α → Progress (Client ω) α
  | .done a c => .done a { c with notes := others }
  | .waits delay c rest =>
    .waits delay { c with notes := others } fun now =>
      keep now.notes (rest { now with notes := c.notes })

/-- Does something as a call of its own, with notes of its own. -/
def apart (work : Work ω α) : Work ω α := fun c => keep c.notes (work { c with notes := .empty })

end Work
end OnionSwarm

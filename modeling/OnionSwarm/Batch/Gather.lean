/-
How requests wait until they are sent together.

A request is added to the batch of its key.  The first one of a batch decides when the batch is
due: a fixed time later, which no request that joins or leaves can change.  A caller who no longer
waits leaves the batch, and a batch without members is given up.  When the earliest batch is due,
all batches that are due by then are handed over; at the end all of them are.
-/
import OnionSwarm.Table

namespace OnionSwarm.Batch

/-- A request that waits. -/
structure Member (Request : Type) where
  id : Nat
  request : Request
  deriving Repr

/-- Requests that will be sent together. -/
structure Pending (Request : Type) where
  /-- The requests in the order of their coming. -/
  members : List (Member Request)
  /-- When they are due. -/
  deadline : Nat
  deriving Repr

/-- A batch that is no longer waiting. -/
structure Handed (Request : Type) where
  key : String
  members : List (Member Request)
  deriving Repr

/-- Batches in the order of their first members. -/
def inOrder {Request : Type} (batches : List (Handed Request)) : List (Handed Request) :=
  let first (b : Handed Request) : Nat := (b.members.head?.map Member.id).getD 0
  batches.mergeSort fun a b => first a ≤ first b

/-- The batches that wait, by their keys. -/
abbrev Waiting (Request : Type) := Table String (Pending Request)

/-- What happens to the batches. -/
inductive Event (Request : Type) where
  /-- A request comes. -/
  | send (id : Nat) (key : String) (request : Request)
  /-- A caller no longer waits. -/
  | cancel (id : Nat) (key : String)
  /-- The earliest batch is due. -/
  | timer
  /-- Nothing will come any more. -/
  | close
  deriving Repr

namespace Waiting

variable {Request : Type}

/-- Adds a request to the batch of its key. -/
def join (window now : Nat) (w : Waiting Request) (key : String) (m : Member Request) :
    Waiting Request :=
  match w.get? key with
  | some batch => w.insert key { batch with members := batch.members ++ [m] }
  | none => w.insert key ⟨[m], now + window⟩

/-- Removes a request from the batch of its key. -/
def leave (w : Waiting Request) (key : String) (id : Nat) : Waiting Request :=
  match w.get? key with
  | none => w
  | some batch =>
    match batch.members.filter (·.id != id) with
    | [] => w.erase key
    | members => w.insert key { batch with members }

/-- When the earliest batch is due. -/
def earliest? (w : Waiting Request) : Option Nat := (w.entries.map (·.2.deadline)).min?

/-- The batches that are due, and those that go on waiting. -/
def split (now : Nat) (w : Waiting Request) : List (Handed Request) × Waiting Request :=
  ((w.entries.filter (·.2.deadline ≤ now)).map fun e => ⟨e.1, e.2.members⟩,
    ⟨w.entries.filter fun e => !(e.2.deadline ≤ now : Bool),
      w.nodup.sublist (List.filter_sublist.map _)⟩)

/-- What an event at some time leads to, and the batches that it hands over. -/
def step (window now : Nat) (w : Waiting Request) :
    Event Request → List (Handed Request) × Waiting Request
  | .send id key request => ([], w.join window now key ⟨id, request⟩)
  | .cancel id key => ([], w.leave key id)
  | .timer => w.split now
  | .close => (w.entries.map fun e => ⟨e.1, e.2.members⟩, .empty)

/-- Events with their times, one after another and with no batch at first: all batches that they
hand over, and those that go on waiting. -/
def run (window : Nat) (events : List (Nat × Event Request)) :
    List (Handed Request) × Waiting Request :=
  events.foldl
    (fun done e =>
      let (handed, w) := done.2.step window e.1 e.2
      (done.1 ++ handed, w))
    ([], .empty)

end Waiting
end OnionSwarm.Batch

/-
Calls that may share a batch with others.

A call without a key is sent at once, and with the notes of its caller.  All others wait in the
batch of their key; a batch is sent as a call of its own, with notes of its own, because it belongs
to no caller alone.
-/
import OnionSwarm.Batch.Execute
import OnionSwarm.Client.State

namespace OnionSwarm.Batching

open Batch

variable {ω Request Item Answer : Type}

/-- What a caller is told whose batch was given up. -/
def unanswered : ApiFailure := .batch "batch dropped before completion"

/-- The batches of some calls that come at the same time, in the order of their first calls. -/
def batches (calls : List (Nat × String × Request)) : List (Handed Request) :=
  let sends := calls.map fun c => (0, Event.send c.1 c.2.1 c.2.2)
  inOrder (Waiting.run 0 (sends ++ [(0, .timer)])).1

/-- Waits until a batch is due, and sends it. -/
def sendBatch (rules : Rules Request Item Answer)
    (inner : Request → Work ω (Except ApiFailure Answer)) (window : Nat) (batch : Handed Request) :
    Work ω (Answers Answer) := do
  Job.wait window
  execute rules (fun r => Work.apart (inner r)) batch.members

/-- Sends one call, which waits for others of its key. -/
def send (rules : Rules Request Item Answer)
    (inner : Request → Work ω (Except ApiFailure Answer)) (window : Nat) (request : Request) :
    Work ω (Except ApiFailure Answer) := do
  match rules.key? request with
  | none => inner request
  | some key =>
    let answers ← sendBatch rules inner window ⟨key, [⟨0, request⟩]⟩
    return (answers.lookup 0).getD (.error unanswered)

/-- Sends calls of several callers at the same time. -/
def sendAll (rules : Rules Request Item Answer)
    (inner : Request → Work ω (Except ApiFailure Answer)) (window : Nat)
    (requests : List Request) : Work ω (List (Except ApiFailure Answer)) := do
  let numbered := requests.zipIdx
  let alone := (numbered.filter fun r => (rules.key? r.1).isNone).map fun r => do
    return [(r.2, ← Work.apart (inner r.1))]
  let gathered := batches
    (numbered.filterMap fun r => (rules.key? r.1).map fun key => (r.2, key, r.1))
  let answers ← Job.together (alone ++ gathered.map (sendBatch rules inner window))
  return numbered.map fun r => (answers.flatten.lookup r.2).getD (.error unanswered)

end OnionSwarm.Batching

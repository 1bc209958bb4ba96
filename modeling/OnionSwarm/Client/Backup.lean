/-
Local objects, and what the account's own swarm keeps of them.

A round stores every object that has changed, each with a call of its own, all at the same time and
at the same node of the swarm.  An object is told so when its revision is stored, and otherwise
stays as it is, for a later round.
-/
import OnionSwarm.Client.Swarms
import OnionSwarm.Backup.Loop
import OnionSwarm.Backup.Revision

namespace OnionSwarm

/-- A local object. -/
structure KeptObject (ω : Type) where
  name : String
  nspace : Int
  /-- Has the object changed since it was last stored? -/
  isDirty : ω → Bool
  /-- Its revision to be stored, or why there is none. -/
  revision : StateM ω (Except String Backup.Revision)
  /-- The revision with a number is stored under a hash. -/
  confirm : Int → String → StateM ω Unit

/-- What came of a round. -/
structure RoundReport where
  pushed : Nat
  failed : Nat
  deriving DecidableEq, Repr

/-- Objects, and how they are stored. -/
structure ObjectBackup (ω : Type) where
  who : Identity
  objects : List (KeptObject ω)
  swarms : SwarmSource ω
  api : SwarmApi ω
  /-- The network time, in milliseconds. -/
  now : Act ω Nat

namespace ObjectBackup

open Backup

variable {ω : Type}

/-- Stores one object at a node. -/
def push (b : ObjectBackup ω) (target : Node) (o : KeptObject ω) :
    Work ω (Except BackupFailure Unit) := do
  match ← Act.ofOutside o.revision with
  | .error reason => return .error (.noRevision o.name reason)
  | .ok r =>
    let call := storing b.who o.nspace r (← b.now)
    match ← Work.apart (b.api ⟨b.who.account, call, some target⟩) with
    | .error e => return .error (.notSent e)
    | .ok answer =>
      match storedHash o.name r answer with
      | .error e => return .error e
      | .ok hash =>
        Act.ofOutside (o.confirm r.number hash)
        return .ok ()

/-- What some results amount to. -/
def report (results : List (Except BackupFailure Unit)) : RoundReport :=
  ⟨(results.filter fun r => r.toBool).length, (results.filter fun r => !r.toBool).length⟩

/-- Stores every object that has changed. -/
def pushPending (b : ObjectBackup ω) : Work ω (Except BackupFailure RoundReport) := do
  let outside := (← get).outside
  match b.objects.filter (·.isDirty outside) with
  | [] => return .ok ⟨0, 0⟩
  | dirty =>
    match ← b.swarms.target b.who.account with
    | .error e => return .error (.noTarget e)
    | .ok target => return .ok (report (← Job.together (dirty.map (b.push target))))

/-- Makes rounds as the notifications that are there ask for them; no more can come. -/
def run (b : ObjectBackup ω) (queued : Nat) : Work ω Loop :=
  (Loop.start queued false).run (discard b.pushPending)

/-- How many notifications can wait. -/
def room : Nat := 16

/-- Makes rounds as notifications ask for them that come as soon as there is room. -/
def serve (b : ObjectBackup ω) (notifications : Nat) : Work ω Loop :=
  (Loop.start 0 true).runWaves (discard b.pushPending) (Loop.waves room notifications)

end ObjectBackup
end OnionSwarm

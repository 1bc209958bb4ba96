/-
Objects to be kept in the swarm of an account, in a simulated world.
-/
import OnionSwarm.Client.Backup

namespace OnionSwarm.Simulation

/-- An object of a simulated world. -/
structure TrialObject where
  name : String
  nspace : Int
  dirty : Bool
  /-- Its revision, which never changes, or why it has none. -/
  revision : Except String Backup.Revision
  /-- The revisions that were stored, and their hashes, in order. -/
  confirmed : List (Int × String) := []

namespace TrialObject

/-- The object is stored. -/
def confirm (o : TrialObject) (number : Int) (hash : String) : TrialObject :=
  { o with dirty := false, confirmed := o.confirmed ++ [(number, hash)] }

/-- Objects of one name have changed. -/
def touch (name : String) (objects : List TrialObject) : List TrialObject :=
  objects.map fun o => if o.name = name then { o with dirty := true } else o

/-- The objects of a world as the client sees them. -/
def kept {ω : Type} (look : ω → List TrialObject) (change : ω → List TrialObject → ω)
    (objects : List TrialObject) : List (KeptObject ω) :=
  objects.zipIdx.map fun (o, i) =>
    { name := o.name
      nspace := o.nspace
      isDirty := fun w => ((look w)[i]?.map TrialObject.dirty).getD false
      revision := fun w => (o.revision, w)
      confirm := fun number hash w =>
        ((), change w ((look w).modify i fun o => o.confirm number hash)) }

end TrialObject
end OnionSwarm.Simulation

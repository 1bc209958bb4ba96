/-
Choosing a path.

The client keeps a small set of guards and begins every path at one of them.  Guards that left the
pool are given up, and the set is filled up again, before a path is chosen: one guard, and then
nodes of the pool that are no guards.  A node that must not be on the path, usually its destination,
is left out.
-/
import OnionSwarm.Directory.Pool
import OnionSwarm.Onion.Path

namespace OnionSwarm

/-- How many hops a path has, and how many guards are kept. -/
structure PathPlan where
  size : Nat
  guards : Nat
  size_pos : 0 < size
  guards_pos : 0 < guards

/-- A plan with at least one hop and one guard. -/
def PathPlan.ofSizes (size guards : Nat) : PathPlan :=
  ⟨max size 1, max guards 1, by omega, by omega⟩

namespace Guards

/-- The guards that are still in the pool. -/
def keep (pool guards : List Node) : List Node := guards.filter fun g => g.isIn pool

/-- The guards for the next path.  If they cannot be filled up, those that are left stay. -/
def refresh (d : Dice) (plan : PathPlan) (pool guards : List Node) :
    Except DirectoryFailure (List Node) × List Node × Dice :=
  let kept := keep pool guards
  if kept.length < plan.guards then
    match Pool.topUp d pool kept plan.guards with
    | (.ok guards, d) => (.ok guards, guards, d)
    | (.error e, d) => (.error e, kept, d)
  else (.ok kept, kept, d)

/-- The nodes of a list without one that must not be there. -/
def without (exclude : Option Node) (nodes : List Node) : List Node :=
  nodes.filter fun n => !exclude.any n.same

/-- Chooses the hops of a path. -/
def chooseHops (d : Dice) (plan : PathPlan) (pool guards : List Node) (exclude : Option Node) :
    Except PathFailure (List Node) × Dice :=
  match d.pick? (without exclude guards) with
  | (none, d) => (.error (.directory (.tooFewNodes 1 0)), d)
  | (some guardNode, d) =>
    let candidates := without exclude (Node.outside pool guards)
    let needed := plan.size - 1
    if candidates.length < needed then
      (.error (.directory (.tooFewNodes needed candidates.length)), d)
    else
      let (more, d) := d.sample needed candidates
      (.ok (guardNode :: more), d)

/-- Chooses a path, and gives the guards that are kept from now on. -/
def choosePath (d : Dice) (plan : PathPlan) (pool guards : List Node) (exclude : Option Node) :
    Except PathFailure Path × List Node × Dice :=
  match refresh d plan pool guards with
  | (.error e, guards, d) => (.error (.directory e), guards, d)
  | (.ok _, guards, d) =>
    match chooseHops d plan pool guards exclude with
    | (.error e, d) => (.error e, guards, d)
    | (.ok hops, d) => (Path.ofHops hops, guards, d)

/-- The guards after a path misbehaved: without its guard. -/
def afterBadPath (guards : List Node) (path : Path) : List Node :=
  guards.filter fun g => !g.same path.guardNode

end Guards
end OnionSwarm

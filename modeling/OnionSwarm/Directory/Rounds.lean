/-
Picking the members of a swarm in rounds, so that each has its turn.

For each account the nodes that were picked in the current round are remembered.  A pick goes to a
node that was not; when none is left, a new round begins with the pick.
-/
import OnionSwarm.Dice
import OnionSwarm.Node.Basic
import OnionSwarm.Table

namespace OnionSwarm

/-- What was picked in the current round of each account. -/
abbrev Rounds := Table String (List Site)

namespace Rounds

/-- What was picked in the round of an account. -/
def used (r : Rounds) (account : String) : List Site := (r.get? account).getD []

/-- The members of a swarm that were not picked. -/
def unused (swarm : List Node) (used : List Site) : List Node :=
  swarm.filter fun n => n.site ∉ used

/-- Picks a member of a swarm; nobody from an empty one, which leaves the round as it is. -/
def select (r : Rounds) (d : Dice) (account : String) (swarm : List Node) :
    Option Node × Rounds × Dice :=
  if swarm.isEmpty then (none, r, d)
  else
    let used := r.used account
    let free := unused swarm used
    let (round, choices) := if free.isEmpty then ([], swarm) else (used, free)
    match d.pick? choices with
    | (some n, d) => (some n, r.insert account (n.site :: round), d)
    | (none, d) => (none, r, d)

/-- Forgets the round of an account. -/
def reset (r : Rounds) (account : String) : Rounds := r.erase account

end Rounds
end OnionSwarm

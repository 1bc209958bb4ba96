/-
Guards are filled up from the pool.

Which guards there were before does not matter: they may have left the pool, and they are handed
back as they came, in front.  What counts is how many nodes of the pool are none of them.  Those are
the nodes to choose from, and there must be one more of them than are missing, because one node at
least has to be left over for the other hops of a path.
-/
import Mathlib.Tactic.Common
import OnionSwarm.Proofs.Client.Paths
import OnionSwarm.Proofs.Onion.Room

namespace OnionSwarm

/-! ### What is left over -/

/-- If fewer nodes were added than there were to choose from, one of these is no guard now. -/
theorem Pool.exists_leftOver {pool guards added : List Node} (distinct : Distinct pool)
    (chosen : added.length < (Node.outside pool guards).length) :
    ∃ n ∈ pool, n.isIn (guards ++ added) = false := by
  have unused : Distinct (Node.outside pool guards) := distinct.sublist List.filter_sublist
  have count := Node.length_le_length_outside unused added
  obtain ⟨n, mem⟩ := List.exists_mem_of_length_pos
    (show 0 < (Node.outside (Node.outside pool guards) added).length by omega)
  obtain ⟨outside, notAdded⟩ := Node.mem_outside_iff.1 mem
  obtain ⟨inPool, noGuard⟩ := Node.mem_outside_iff.1 outside
  refine ⟨n, inPool, ?_⟩
  rw [Node.isIn, List.any_append, Bool.or_eq_false_iff]
  exact ⟨noGuard, notAdded⟩

namespace SeedSource

variable {ω : Type} {c : Client ω}

theorem guardNodes_eq (existing : List Node) (target : Nat) (c : Client ω) :
    guardNodes existing target c
      = if target ≤ existing.length then (.ok existing, c)
        else ((Pool.topUp c.dice c.store.viewPool existing target).1,
          { c with store := c.store.notePool
                   dice := (Pool.topUp c.dice c.store.viewPool existing target).2 }) := by
  unfold guardNodes
  split <;> rfl

/-- The answer is that of filling up from the pool as it is. -/
theorem toppedUp_guardNodes (existing : List Node) (target : Nat) (c : Client ω) :
    Pool.ToppedUp c.store.viewPool existing target (guardNodes existing target c).1 := by
  rw [guardNodes_eq]
  by_cases full : target ≤ existing.length
  · rw [if_pos full]
    exact .enough full
  · rw [if_neg full]
    exact Pool.toppedUp _ _ _ _

/-- **Guards are filled up exactly if a node of the pool is left over.**

If there are as many as wanted already, they are the answer, and nothing else happens.  If not, they
are filled up exactly if more nodes of the pool are none of them than are missing; if it cannot be
done, the answer says how many it would take and how many there are.  Then the old guards stand in
front, as they were; behind them come as many as were missing, different nodes of the pool that are
none of the old ones; and some node of the pool is not among them all.  The pool stays what it is,
in memory and in storage. -/
theorem guardNodes_ok_iff_leftOver (existing : List Node) (target : Nat)
    (distinct : Distinct c.store.viewPool) :
    let pool := c.store.viewPool
    let unused := Node.outside pool existing
    let missing := target - existing.length
    let answer := (guardNodes existing target c).1
    let after := (guardNodes existing target c).2
    (target ≤ existing.length → answer = .ok existing ∧ after = c) ∧
    (existing.length < target →
      ((∃ guards, answer = .ok guards) ↔ missing < unused.length) ∧
      (unused.length ≤ missing →
        answer = .error (.tooFewNodes (missing + 1) unused.length)) ∧
      ∀ guards, answer = .ok guards →
        ∃ added, guards = existing ++ added ∧ added.length = missing ∧ Distinct added ∧
          (∀ n ∈ added, n ∈ pool ∧ n.isIn existing = false) ∧
          ∃ n ∈ pool, n.isIn guards = false) ∧
    after.store.viewPool = pool ∧ after.store.disk = c.store.disk := by
  intro pool unused missing answer after
  have outcome : Pool.ToppedUp pool existing target answer := toppedUp_guardNodes existing target c
  -- each part is read off the three outcomes of filling up
  refine ⟨fun full => ?_, fun short => ⟨?_, fun few => ?_, fun guards isOk => ?_⟩, ?_⟩
  · have same : guardNodes existing target c = (.ok existing, c) := by
      rw [guardNodes_eq, if_pos full]
    exact ⟨congrArg Prod.fst same, congrArg Prod.snd same⟩
  · generalize answer = a at outcome
    cases outcome with
    | enough full => omega
    | few _ few =>
      refine ⟨?_, fun room => absurd few (Nat.not_le.2 room)⟩
      rintro ⟨guards, isOk⟩
      cases isOk
    | filled _ room => exact ⟨fun _ => room, fun _ => ⟨_, rfl⟩⟩
  · generalize answer = a at outcome
    cases outcome with
    | enough full => omega
    | few => rfl
    | filled _ room => exact absurd room (Nat.not_lt.2 few)
  · rw [isOk] at outcome
    cases outcome with
    | enough full => omega
    | @filled added _ room count chosen =>
      have unused : Distinct (Node.outside pool existing) :=
        distinct.sublist List.filter_sublist
      refine ⟨added, rfl, count, unused.subperm chosen, fun n mem => ?_, ?_⟩
      · exact Node.mem_outside_iff.1 (chosen.subset mem)
      · exact Pool.exists_leftOver distinct (by omega)
  · show (guardNodes existing target c).2.store.viewPool = _ ∧
      (guardNodes existing target c).2.store.disk = _
    rw [guardNodes_eq]
    split <;> exact ⟨rfl, rfl⟩

/-- Two guards, one of which has left the pool. -/
def trialGuards : List Node := [Onion.trialNode 2, Onion.trialNode 9]

/-- The pool has three nodes to choose from: two of them can become guards, but not all three. -/
theorem guardNodes_ok_iff_leftOver_trialClient :
    Distinct Paths.trialClient.store.viewPool ∧
    (Node.outside Paths.trialClient.store.viewPool trialGuards).length = 3 ∧
    (∃ guards, (guardNodes trialGuards 4 Paths.trialClient).1 = .ok guards) ∧
    (guardNodes trialGuards 5 Paths.trialClient).1 = .error (.tooFewNodes 4 3) := by
  have distinct : Distinct Paths.trialClient.store.viewPool := by decide
  refine ⟨distinct, by decide, ?_, ?_⟩
  · exact (((guardNodes_ok_iff_leftOver trialGuards 4 distinct).2.1 (by decide)).1).2 (by decide)
  · exact ((guardNodes_ok_iff_leftOver trialGuards 5 distinct).2.1 (by decide)).2.1 (by decide)

end SeedSource
end OnionSwarm

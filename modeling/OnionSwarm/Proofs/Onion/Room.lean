/-
Whether there is room for a path.

A pool that is as large as a path and the guards together has nodes enough for every choice.  Nodes
that are left out are counted once, so the guards can be filled up from what is no guard, and beside
them and the excluded node there are still enough hops.  What no pool can help is that the excluded
node may be the only guard: then there is nothing to begin a path at, however large the pool is.
-/
import Mathlib.Tactic.Common
import OnionSwarm.Proofs.Onion.Guards

namespace OnionSwarm

/-! ### Counting what is left -/

/-- To leave out some nodes costs no more nodes than those. -/
theorem Node.length_le_length_outside {nodes : List Node} (distinct : Distinct nodes)
    (others : List Node) :
    nodes.length ≤ (Node.outside nodes others).length + others.length := by
  have gone : (nodes.filter fun n => n.isIn others).length ≤ others.length := by
    have sites : Distinct (nodes.filter fun n => n.isIn others) :=
      distinct.sublist List.filter_sublist
    have within : (nodes.filter fun n => n.isIn others).map Node.site ⊆ others.map Node.site := by
      intro site mem
      obtain ⟨n, kept, rfl⟩ := List.mem_map.1 mem
      exact Node.isIn_iff.1 (List.mem_filter.1 kept).2
    have count := sites.length_le_of_subset within
    rwa [List.length_map, List.length_map] at count
  have parts := List.length_eq_length_filter_add (l := nodes) fun n => n.isIn others
  rw [Node.outside]
  omega

namespace Guards

variable {plan : PathPlan} {pool guards : List Node} {exclude : Option Node}

theorem without_eq_outside (exclude : Option Node) (nodes : List Node) :
    without exclude nodes = Node.outside nodes exclude.toList := by
  refine List.filter_congr fun n _ => ?_
  cases exclude with
  | none => rfl
  | some m => simp [Node.isIn, Node.same, BEq.comm]

/-- The excluded node is one node at most. -/
theorem length_le_length_without {nodes : List Node} (distinct : Distinct nodes)
    (exclude : Option Node) : nodes.length ≤ (without exclude nodes).length + 1 := by
  have count := Node.length_le_length_outside distinct exclude.toList
  have single : exclude.toList.length ≤ 1 := by cases exclude <;> simp
  rw [without_eq_outside]
  omega

/-! ### The guards -/

/-- The guards can be filled up if the pool holds one node more than are wanted. -/
theorem refresh_ok (d : Dice) (poolDistinct : Distinct pool) (room : plan.guards < pool.length)
    (guards : List Node) : ∃ left, (refresh d plan pool guards).1 = .ok left := by
  have unused := Node.length_le_length_outside poolDistinct (keep pool guards)
  unfold refresh
  by_cases enough : (keep pool guards).length < plan.guards
  · have filled : ∃ left, (Pool.topUp d pool (keep pool guards) plan.guards).1 = .ok left := by
      have outcome := Pool.toppedUp d pool (keep pool guards) plan.guards
      generalize (Pool.topUp d pool (keep pool guards) plan.guards).1 = answer at outcome ⊢
      cases outcome with
      | enough | filled => exact ⟨_, rfl⟩
      | few missing few => omega
    obtain ⟨left, isOk⟩ := filled
    simp only [if_pos enough]
    cases top : Pool.topUp d pool (keep pool guards) plan.guards with
    | mk result d' =>
      rw [top] at isOk
      obtain rfl : result = .ok left := isOk
      exact ⟨left, rfl⟩
  · rw [if_neg enough]
    exact ⟨_, rfl⟩

/-- The only guard is the node that must not be on the path. -/
def OnlyExcluded (guards : List Node) (exclude : Option Node) : Prop :=
  ∃ g m, guards = [g] ∧ exclude = some m ∧ g.same m = true

theorem without_eq_nil_iff (distinct : Distinct guards) (nonempty : 0 < guards.length) :
    without exclude guards = [] ↔ OnlyExcluded guards exclude := by
  constructor
  · intro none
    have count := length_le_length_without distinct exclude
    rw [none, List.length_nil] at count
    obtain ⟨g, rfl⟩ := List.length_eq_one_iff.1 (show guards.length = 1 by omega)
    have out : g ∉ without exclude [g] := by
      rw [none]
      exact List.not_mem_nil
    rw [mem_without_iff] at out
    push Not at out
    obtain ⟨m, isExcluded, same⟩ := out (List.mem_singleton_self g)
    exact ⟨g, m, rfl, isExcluded, by simpa using same⟩
  · rintro ⟨g, m, rfl, rfl, same⟩
    simp [without, same]

/-! ### The hops -/

theorem chooseHops_of_noGuard (d : Dice) (plan : PathPlan) (pool : List Node)
    (none : without exclude guards = []) :
    (chooseHops d plan pool guards exclude).1 = .error (.directory (.tooFewNodes 1 0)) := by
  rw [chooseHops, none]
  rfl

theorem chooseHops_ok (d : Dice) (poolDistinct : Distinct pool)
    (usable : without exclude guards ≠ []) (room : plan.size + guards.length ≤ pool.length) :
    ∃ hops, (chooseHops d plan pool guards exclude).1 = .ok hops := by
  obtain ⟨first, found⟩ := d.exists_pick? usable
  have others := Node.length_le_length_outside poolDistinct guards
  have unused : Distinct (Node.outside pool guards) := poolDistinct.sublist List.filter_sublist
  have candidates := length_le_length_without unused exclude
  unfold chooseHops
  cases picked : d.pick? (without exclude guards) with
  | mk result d' =>
    rw [picked] at found
    obtain rfl : result = some first := found
    simp only
    rw [if_neg (by omega)]
    exact ⟨_, rfl⟩

/-- **With room for a path and the guards, a path is chosen unless the only guard is excluded.** -/
theorem choosePath_of_room (d : Dice) (exclude : Option Node) (fit : Fit plan guards)
    (poolDistinct : Distinct pool) (room : plan.size + plan.guards ≤ pool.length) :
    (without exclude (choosePath d plan pool guards exclude).2.1 = [] →
      (choosePath d plan pool guards exclude).1 = .error (.directory (.tooFewNodes 1 0))) ∧
    (without exclude (choosePath d plan pool guards exclude).2.1 ≠ [] →
      ∃ path, (choosePath d plan pool guards exclude).1 = .ok path) ∧
    (choosePath d plan pool guards exclude).2.1.length = plan.guards := by
  have size := plan.size_pos
  -- there is room for all guards, so only the choice of the hops can fail
  obtain ⟨left, isOk⟩ := refresh_ok d poolDistinct (show plan.guards < pool.length by omega) guards
  obtain ⟨refreshed, full⟩ := refresh_spec (d := d) fit poolDistinct
  unfold choosePath
  cases first : refresh d plan pool guards with
  | mk result rest =>
    obtain ⟨left', d'⟩ := rest
    rw [first] at isOk refreshed full
    obtain rfl : result = .ok left := isOk
    have count : left'.length = plan.guards := full left rfl
    simp only
    cases second : chooseHops d' plan pool left' exclude with
    | mk result d'' =>
      cases result with
      | error e =>
        simp only
        refine ⟨fun none => ?_, fun usable => ?_, count⟩
        · have failed := chooseHops_of_noGuard d' plan pool none
          rw [second] at failed
          exact congrArg Except.error (Except.error.inj failed)
        · obtain ⟨hops, chosen⟩ := chooseHops_ok d' poolDistinct usable (show plan.size + _ ≤ _ by omega)
          rw [second] at chosen
          cases chosen
      | ok hops =>
        simp only
        refine ⟨fun none => ?_, fun usable => ?_, count⟩
        · have failed := chooseHops_of_noGuard d' plan pool none
          rw [second] at failed
          cases failed
        · obtain ⟨path, made, -⟩ := pathFits_chooseHops poolDistinct refreshed.inPool
            (congrArg Prod.fst second)
          exact ⟨path, made⟩

end Guards
end OnionSwarm

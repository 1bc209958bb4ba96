/-
One choice of a path.

The guards are filled up from the nodes of the pool that are no guards, and so are the other hops of
a path; that is all there is to why no node is chosen twice.  It takes a pool without repeats and
guards without repeats to start from, and it leaves the guards so (`choosePath_spec`).
-/
import Mathlib.Tactic.Common
import Mathlib.Data.List.Nodup
import OnionSwarm.Onion.Build
import OnionSwarm.Onion.Guards
import OnionSwarm.Proofs.Dice

namespace OnionSwarm

/-! ### Lists of nodes without repeats -/

theorem Node.isIn_of_mem {n : Node} {nodes : List Node} (mem : n ∈ nodes) :
    n.isIn nodes = true :=
  Node.isIn_iff.2 (List.mem_map_of_mem mem)

theorem Node.mem_outside_iff {n : Node} {nodes others : List Node} :
    n ∈ Node.outside nodes others ↔ n ∈ nodes ∧ n.isIn others = false := by
  rw [Node.outside, List.mem_filter, Bool.not_eq_true']

theorem Distinct.sublist {nodes more : List Node} (distinct : Distinct more)
    (within : nodes.Sublist more) : Distinct nodes :=
  List.Nodup.sublist (within.map Node.site) distinct

theorem Distinct.subperm {nodes more : List Node} (distinct : Distinct more)
    (within : nodes.Subperm more) : Distinct nodes := by
  obtain ⟨sorted, perm, sub⟩ := within
  exact ((perm.map Node.site).nodup_iff).1 (distinct.sublist sub)

theorem Distinct.append {nodes more : List Node} (first : Distinct nodes) (second : Distinct more)
    (apart : ∀ n ∈ more, n.isIn nodes = false) : Distinct (nodes ++ more) := by
  rw [Distinct, List.map_append]
  refine List.nodup_append'.2 ⟨first, second, ?_⟩
  intro site inNodes inMore
  obtain ⟨n, mem, rfl⟩ := List.mem_map.1 inMore
  have outside := apart n mem
  rw [Node.isIn_iff.2 inNodes] at outside
  cases outside

/-- A list without repeats has no node that was there before. -/
theorem Path.repeated?_eq_none_of_distinct (seen : List Node) {nodes : List Node}
    (distinct : Distinct nodes) (apart : ∀ n ∈ nodes, n.isIn seen = false) :
    Path.repeated? seen nodes = none := by
  induction nodes generalizing seen with
  | nil => rfl
  | cons n rest ih =>
    obtain ⟨fresh, distinct⟩ := List.nodup_cons.1 (show (n.site :: rest.map Node.site).Nodup from
      distinct)
    rw [Path.repeated?, if_neg (by rw [apart n (by simp)]; simp)]
    refine ih (n :: seen) distinct fun m mem => ?_
    have before := apart m (List.mem_cons_of_mem n mem)
    have other : n.site ≠ m.site := fun same => fresh (same ▸ List.mem_map_of_mem mem)
    rw [Node.isIn, List.any_cons, Bool.or_eq_false_iff]
    exact ⟨by simpa [Node.same] using other, before⟩

theorem Path.ofHops_of_distinct {hops : List Node} (nonempty : hops ≠ [])
    (distinct : Distinct hops) : Path.ofHops hops = .ok ⟨hops, nonempty, distinct⟩ := by
  have none := Path.repeated?_eq_none_of_distinct [] distinct (by simp [Node.isIn])
  unfold Path.ofHops
  rw [dif_neg nonempty]
  split
  · rename_i hop repeated
    rw [none] at repeated
    cases repeated
  · rfl

/-! ### Filling up -/

/-- What it comes to when guards are filled up from a pool, whatever the dice show. -/
inductive Pool.ToppedUp (pool guards : List Node) (target : Nat) :
    Except DirectoryFailure (List Node) → Prop
  /-- There are enough of them already. -/
  | enough (full : target ≤ guards.length) : ToppedUp pool guards target (.ok guards)
  /-- None of the pool would be left over. -/
  | few (missing : guards.length < target)
    (few : (Node.outside pool guards).length ≤ target - guards.length) :
    ToppedUp pool guards target
      (.error (.tooFewNodes (target - guards.length + 1) (Node.outside pool guards).length))
  /-- The missing ones come behind, each taken from another place of the pool. -/
  | filled {added : List Node} (missing : guards.length < target)
    (room : target - guards.length < (Node.outside pool guards).length)
    (count : added.length = target - guards.length)
    (chosen : added.Subperm (Node.outside pool guards)) :
    ToppedUp pool guards target (.ok (guards ++ added))

theorem Pool.toppedUp (d : Dice) (pool guards : List Node) (target : Nat) :
    ToppedUp pool guards target (topUp d pool guards target).1 := by
  unfold topUp
  by_cases full : target ≤ guards.length
  · rw [if_pos full]
    exact .enough full
  · rw [if_neg full]
    have missing : guards.length < target := by omega
    by_cases few : (Node.outside pool guards).length ≤ target - guards.length
    · simp only [if_pos few]
      exact .few missing few
    · simp only [if_neg few]
      have count := d.length_sample (target - guards.length) (Node.outside pool guards)
      exact .filled missing (by omega) (by omega) (d.sample_subperm _ _)

namespace Guards

variable {plan : PathPlan} {pool guards left : List Node} {exclude : Option Node} {d : Dice}

/-! ### The guards for the next path -/

/-- Guards that may be kept between calls: no node twice, and not too many. -/
structure Fit (plan : PathPlan) (guards : List Node) : Prop where
  distinct : Distinct guards
  bounded : guards.length ≤ plan.guards

/-- What a call makes of the guards. -/
structure Refreshed (plan : PathPlan) (pool guards left : List Node) : Prop where
  fit : Fit plan left
  /-- All of them are in the pool. -/
  inPool : ∀ g ∈ left, g.isIn pool = true
  /-- No guard that is in the pool was given up. -/
  kept : ∀ g ∈ guards, g.isIn pool = true → g ∈ left

theorem refreshed_keep (fit : Fit plan guards) (pool : List Node) :
    Refreshed plan pool guards (keep pool guards) := by
  have within : (keep pool guards).Sublist guards := List.filter_sublist
  refine ⟨⟨fit.distinct.sublist within, Nat.le_trans within.length_le fit.bounded⟩, ?_, ?_⟩
  · intro g mem
    exact (List.mem_filter.1 mem).2
  · intro g mem inPool
    exact List.mem_filter.2 ⟨mem, inPool⟩

/-- Guards that were filled up are old ones or nodes of the pool. -/
theorem mem_of_topUp {target : Nat} (filled : (Pool.topUp d pool guards target).1 = .ok left) :
    ∀ g ∈ left, g ∈ guards ∨ g ∈ pool := by
  have outcome := Pool.toppedUp d pool guards target
  rw [filled] at outcome
  cases outcome with
  | enough => exact fun g mem => .inl mem
  | filled _ _ _ chosen =>
    intro g mem
    rcases List.mem_append.1 mem with old | new
    · exact .inl old
    · exact .inr (Node.mem_outside_iff.1 (chosen.subset new)).1

/-- Guards that were filled up: as many as are wanted, the old ones among them. -/
theorem topUp_spec {target : Nat} (distinct : Distinct guards) (poolDistinct : Distinct pool)
    (bounded : guards.length ≤ target) (filled : (Pool.topUp d pool guards target).1 = .ok left) :
    Distinct left ∧ left.length = target ∧ (∀ g ∈ left, g ∈ guards ∨ g ∈ pool) ∧
      ∀ g ∈ guards, g ∈ left := by
  have outcome := Pool.toppedUp d pool guards target
  rw [filled] at outcome
  cases outcome with
  | enough full => exact ⟨distinct, by omega, fun g mem => .inl mem, fun g mem => mem⟩
  | @filled added missing room count chosen =>
    have fresh : Distinct added := (poolDistinct.sublist List.filter_sublist).subperm chosen
    refine ⟨distinct.append fresh ?_, ?_, mem_of_topUp filled,
      fun g mem => List.mem_append_left _ mem⟩
    · intro n mem
      exact (Node.mem_outside_iff.1 (chosen.subset mem)).2
    · rw [List.length_append, count]
      omega

theorem refresh_spec (fit : Fit plan guards) (poolDistinct : Distinct pool) :
    Refreshed plan pool guards (refresh d plan pool guards).2.1 ∧
      ∀ ok, (refresh d plan pool guards).1 = .ok ok →
        (refresh d plan pool guards).2.1.length = plan.guards := by
  have kept := refreshed_keep fit pool
  unfold refresh
  by_cases enough : (keep pool guards).length < plan.guards
  · simp only [if_pos enough]
    cases filled : Pool.topUp d pool (keep pool guards) plan.guards with
    | mk result d' =>
      cases result with
      | error e => exact ⟨kept, fun ok isOk => by cases isOk⟩
      | ok left =>
        obtain ⟨distinct, count, members, old⟩ := topUp_spec kept.fit.distinct poolDistinct
          (Nat.le_of_lt enough) (congrArg Prod.fst filled)
        refine ⟨⟨⟨distinct, Nat.le_of_eq count⟩, ?_, ?_⟩, fun ok isOk => count⟩
        · intro g mem
          rcases members g mem with old | new
          · exact kept.inPool g old
          · exact Node.isIn_of_mem new
        · intro g mem inPool
          exact old g (kept.kept g mem inPool)
  · simp only [if_neg enough]
    have bounded := kept.fit.bounded
    exact ⟨kept, fun ok isOk => by omega⟩

/-! ### The hops -/

/-- A path that was handed out, when `guards` were left from a `pool`. -/
structure PathFits (plan : PathPlan) (pool guards : List Node) (exclude : Option Node)
    (path : Path) : Prop where
  length : path.hops.length = plan.size
  distinct : Distinct path.hops
  /-- It begins at a guard, -/
  guard : path.guardNode ∈ guards
  /-- and passes no other one. -/
  others : ∀ n ∈ path.hops.tail, n.isIn guards = false
  excluded : ∀ n, exclude = some n → path.contains n = false
  inPool : ∀ n ∈ path.hops, n.isIn pool = true

theorem mem_without_iff {n : Node} {nodes : List Node} :
    n ∈ without exclude nodes ↔ n ∈ nodes ∧ ∀ m, exclude = some m → n.same m = false := by
  rw [without, List.mem_filter]
  cases exclude with
  | none => simp
  | some m => simp

theorem chooseHops_spec {hops : List Node} (poolDistinct : Distinct pool)
    (chosen : (chooseHops d plan pool guards exclude).1 = .ok hops) :
    ∃ first more, hops = first :: more ∧ hops.length = plan.size ∧ Distinct hops ∧
      first ∈ guards ∧ (∀ n ∈ more, n ∈ pool ∧ n.isIn guards = false) ∧
      ∀ n ∈ hops, ∀ m, exclude = some m → n.same m = false := by
  unfold chooseHops at chosen
  cases picked : d.pick? (without exclude guards) with
  | mk result d' =>
    rw [picked] at chosen
    cases result with
    | none => cases chosen
    | some first =>
      simp only at chosen
      have isGuard := Dice.mem_of_pick? (congrArg Prod.fst picked)
      rw [mem_without_iff] at isGuard
      have size := plan.size_pos
      by_cases few : (without exclude (Node.outside pool guards)).length < plan.size - 1
      · rw [if_pos few] at chosen
        cases chosen
      · rw [if_neg few] at chosen
        have within := d'.sample_subperm (plan.size - 1) (without exclude (Node.outside pool guards))
        have count := d'.length_sample (plan.size - 1) (without exclude (Node.outside pool guards))
        have candidates : Distinct (without exclude (Node.outside pool guards)) :=
          poolDistinct.sublist (List.filter_sublist.trans List.filter_sublist)
        have each : ∀ n ∈ (d'.sample (plan.size - 1) (without exclude (Node.outside pool guards))).1,
            (n ∈ pool ∧ n.isIn guards = false) ∧ ∀ m, exclude = some m → n.same m = false := by
          intro n mem
          obtain ⟨outside, excluded⟩ := mem_without_iff.1 (within.subset mem)
          exact ⟨Node.mem_outside_iff.1 outside, excluded⟩
        have single : Distinct [first] := List.nodup_singleton _
        obtain rfl := Except.ok.inj chosen
        refine ⟨first, _, rfl, ?_, single.append (candidates.subperm within) ?_, isGuard.1,
          fun n mem => (each n mem).1, ?_⟩
        · rw [List.length_cons, count]
          omega
        · intro n mem
          have noGuard := (each n mem).1.2
          -- the first hop is a guard, so no other hop can share its site
          have guardSite : first.site ∈ guards.map Node.site := List.mem_map_of_mem isGuard.1
          rw [Bool.eq_false_iff, ne_eq, Node.isIn_iff] at noGuard ⊢
          intro same
          exact noGuard (List.mem_singleton.1 same ▸ guardSite)
        · intro n mem
          rcases List.mem_cons.1 mem with rfl | mem
          · exact isGuard.2
          · exact (each n mem).2

theorem chooseHops_error {e : PathFailure}
    (failed : (chooseHops d plan pool guards exclude).1 = .error e) :
    ∃ cause, e = .directory cause := by
  unfold chooseHops at failed
  cases picked : d.pick? (without exclude guards) with
  | mk result d' =>
    rw [picked] at failed
    cases result with
    | none => exact ⟨_, (Except.error.inj failed).symm⟩
    | some first =>
      simp only at failed
      by_cases few : (without exclude (Node.outside pool guards)).length < plan.size - 1
      · rw [if_pos few] at failed
        exact ⟨_, (Except.error.inj failed).symm⟩
      · rw [if_neg few] at failed
        cases failed

/-- What is chosen makes a path. -/
theorem pathFits_chooseHops {hops : List Node} (poolDistinct : Distinct pool)
    (inPool : ∀ g ∈ guards, g.isIn pool = true)
    (chosen : (chooseHops d plan pool guards exclude).1 = .ok hops) :
    ∃ path, Path.ofHops hops = .ok path ∧ PathFits plan pool guards exclude path := by
  obtain ⟨first, more, rfl, length, distinct, isGuard, others, excluded⟩ :=
    chooseHops_spec poolDistinct chosen
  refine ⟨_, Path.ofHops_of_distinct (List.cons_ne_nil first more) distinct, ?_⟩
  refine ⟨length, distinct, isGuard, fun n mem => (others n mem).2, ?_, ?_⟩
  · intro n isExcluded
    rw [Path.contains, Node.isIn, List.any_eq_false]
    intro m mem
    rw [excluded m mem n isExcluded]
    exact Bool.false_ne_true
  · intro n mem
    rcases List.mem_cons.1 mem with rfl | mem
    · exact inPool n isGuard
    · exact Node.isIn_of_mem (others n mem).1

/-- **A choice of a path keeps the guards in order, and it chooses well or finds that there are too
few nodes.** -/
theorem choosePath_spec (d : Dice) (exclude : Option Node) (fit : Fit plan guards)
    (poolDistinct : Distinct pool) :
    Refreshed plan pool guards (choosePath d plan pool guards exclude).2.1 ∧
      (∀ path, (choosePath d plan pool guards exclude).1 = .ok path →
        PathFits plan pool (choosePath d plan pool guards exclude).2.1 exclude path ∧
        (choosePath d plan pool guards exclude).2.1.length = plan.guards) ∧
      ∀ e, (choosePath d plan pool guards exclude).1 = .error e → ∃ cause, e = .directory cause := by
  obtain ⟨refreshed, full⟩ := refresh_spec (d := d) fit poolDistinct
  unfold choosePath
  -- the guards are refreshed first, and the hops are chosen beside what that leaves
  cases first : refresh d plan pool guards with
  | mk result rest =>
    obtain ⟨left, d'⟩ := rest
    rw [first] at refreshed full
    cases result with
    | error e =>
      refine ⟨refreshed, ?_, ?_⟩
      · intro path isOk
        cases isOk
      · intro e' isError
        exact ⟨e, (Except.error.inj isError).symm⟩
    | ok ok =>
      simp only
      cases second : chooseHops d' plan pool left exclude with
      | mk result d'' =>
        cases result with
        | error e =>
          refine ⟨refreshed, ?_, ?_⟩
          · intro path isOk
            cases isOk
          · intro e' isError
            obtain rfl := Except.error.inj isError
            exact chooseHops_error (congrArg Prod.fst second)
        | ok hops =>
          obtain ⟨path, made, fits⟩ := pathFits_chooseHops poolDistinct refreshed.inPool
            (congrArg Prod.fst second)
          simp only [made]
          refine ⟨refreshed, ?_, ?_⟩
          · intro path' isOk
            obtain rfl := Except.ok.inj isOk
            exact ⟨fits, full ok rfl⟩
          · intro e isError
            cases isError

end Guards
end OnionSwarm

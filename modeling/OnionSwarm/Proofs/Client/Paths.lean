/-
Paths and guards over every run.

Between two calls for a path anything may happen to the client: paths are given up, nodes are given
up, the pool is replaced, the dice are thrown for other ends.  What stays is that the guards and the
pool hold no node twice, and that there are not too many guards (`Tidy`).  That is all that a call
needs to choose well, and it leaves it so.
-/
import Mathlib.Tactic.Common
import OnionSwarm.Client.Paths
import OnionSwarm.Proofs.Client.Acts
import OnionSwarm.Proofs.Node.Entry
import OnionSwarm.Proofs.Onion.Layers

namespace OnionSwarm

variable {ω : Type} {source : SeedSource ω} {plan : PathPlan} {c c' : Client ω}

/-! ### The pool -/

namespace SeedSource

/-- A seed is asked: the guards stay, and the pool is replaced by a usable answer only. -/
theorem refresh_spec (source : SeedSource ω) (c : Client ω) :
    (source.refresh c).2.guards = c.guards ∧
      ((∃ nodes, (source.refresh c).1 = .ok nodes ∧ Distinct nodes ∧
          (source.refresh c).2.store.viewPool = nodes) ∨
        (∃ e, (source.refresh c).1 = .error e) ∧
          (source.refresh c).2.store.viewPool = c.store.viewPool) := by
  unfold refresh
  rw [Act.bind_apply, Act.ofDice_apply]
  cases (c.dice.pick? source.seeds).1 with
  | none => exact ⟨rfl, .inr ⟨⟨_, rfl⟩, rfl⟩⟩
  | some seed =>
    simp only [Act.bind_apply, Act.ofOutside_apply]
    cases read : readAnswer seed (source.post seed NodeCall.listNodes.toBytes c.outside).1 with
    | error e => exact ⟨rfl, .inr ⟨⟨e, rfl⟩, rfl⟩⟩
    | ok nodes => exact ⟨rfl, .inl ⟨nodes, rfl, (wellListed_readAnswer read).distinct, rfl⟩⟩

theorem ensure_eq (source : SeedSource ω) (c : Client ω) :
    source.ensure c
      = if source.minPool ≤ c.store.viewPool.length then
          (.ok c.store.viewPool, { c with store := c.store.notePool })
        else source.refresh { c with store := c.store.notePool } := by
  unfold ensure
  rw [Act.bind_apply, Act.pool_apply]
  split <;> rfl

/-- The pool is asked for: the guards stay, the pool holds no node twice, and an answer is the pool
from then on. -/
theorem ensure_spec (source : SeedSource ω) {c : Client ω} (distinct : Distinct c.store.viewPool) :
    (source.ensure c).2.guards = c.guards ∧ Distinct (source.ensure c).2.store.viewPool ∧
      ∀ pool, (source.ensure c).1 = .ok pool → (source.ensure c).2.store.viewPool = pool := by
  rw [ensure_eq]
  split
  · refine ⟨rfl, distinct, ?_⟩
    intro pool isOk
    exact Except.ok.inj isOk
  · obtain ⟨guards, asked⟩ := source.refresh_spec { c with store := c.store.notePool }
    refine ⟨guards, ?_, ?_⟩
    · rcases asked with ⟨nodes, -, fresh, view⟩ | ⟨-, view⟩
      · rw [view]
        exact fresh
      · rw [view]
        exact distinct
    · intro pool isOk
      rcases asked with ⟨nodes, found, -, view⟩ | ⟨⟨e, failed⟩, -⟩
      · rw [found] at isOk
        rw [view]
        exact Except.ok.inj isOk
      · rw [failed] at isOk
        cases isOk

end SeedSource

namespace Paths

/-! ### Runs -/

/-- A call for a path asks for the pool and chooses. -/
theorem get_eq (source : SeedSource ω) (plan : PathPlan) (exclude : Option Node) (c : Client ω) :
    get source plan exclude c
      = match source.ensure c with
        | (.error e, c) => (.error (.directory e), c)
        | (.ok pool, c) =>
          ((Guards.choosePath c.dice plan pool c.guards exclude).1,
            { c with guards := (Guards.choosePath c.dice plan pool c.guards exclude).2.1
                     dice := (Guards.choosePath c.dice plan pool c.guards exclude).2.2 }) := by
  unfold get
  rw [Act.bind_apply]
  cases source.ensure c with
  | mk answer c => cases answer <;> rfl

/-- What may happen to the paths, the guards and the pool.  Everything else that happens leaves the
guards alone, and leaves some pool without repeats. -/
inductive Step (source : SeedSource ω) (plan : PathPlan) : Client ω → Client ω → Prop
  | get (c : Client ω) (exclude : Option Node) : Step source plan c (get source plan exclude c).2
  | dropPath (c : Client ω) (path : Path) : Step source plan c (dropPath path c).2
  | dropKey (c : Client ω) (key : String) : Step source plan c (dropKey key c).2
  | other {c c' : Client ω} (guards : c'.guards = c.guards) (pool : Distinct c'.store.viewPool) :
    Step source plan c c'

/-- The clients that are reached from one without guards. -/
inductive Reachable (source : SeedSource ω) (plan : PathPlan) : Client ω → Prop
  | start {c : Client ω} (guards : c.guards = []) (pool : Distinct c.store.viewPool) :
    Reachable source plan c
  | step {c c' : Client ω} (before : Reachable source plan c) (step : Step source plan c c') :
    Reachable source plan c'

/-- What a call for a path needs, and what every step keeps. -/
structure Tidy (plan : PathPlan) (c : Client ω) : Prop where
  guards : Guards.Fit plan c.guards
  pool : Distinct c.store.viewPool

/-- What a call for a path comes to. -/
structure GetsWell (source : SeedSource ω) (plan : PathPlan) (exclude : Option Node)
    (c : Client ω) : Prop where
  /-- A path that is handed out is made of the pool that the call used, and so are the guards that
  are left, as many as are wanted. -/
  path : ∀ path, (get source plan exclude c).1 = .ok path →
    ∃ pool, (source.ensure c).1 = .ok pool ∧
      Guards.PathFits plan pool (get source plan exclude c).2.guards exclude path ∧
      Distinct (get source plan exclude c).2.guards ∧
      (∀ g ∈ (get source plan exclude c).2.guards, g.isIn pool = true) ∧
      (get source plan exclude c).2.guards.length = plan.guards
  /-- The only fault is one of the directory: the hops are never none, and never repeat. -/
  error : ∀ e, (get source plan exclude c).1 = .error e → ∃ cause, e = .directory cause
  /-- No guard that is in the pool of the call is given up, whether the call succeeds or not. -/
  kept : ∀ g ∈ c.guards, (∀ pool, (source.ensure c).1 = .ok pool → g.isIn pool = true) →
    g ∈ (get source plan exclude c).2.guards

theorem get_spec (source : SeedSource ω) (exclude : Option Node) (tidy : Tidy plan c) :
    Tidy plan (get source plan exclude c).2 ∧ GetsWell source plan exclude c := by
  obtain ⟨guards, distinct, view⟩ := source.ensure_spec tidy.pool
  have form := get_eq source plan exclude c
  cases asked : source.ensure c with
  | mk answer c₁ =>
    rw [asked] at guards distinct view form
    have fit : Guards.Fit plan c₁.guards := guards ▸ tidy.guards
    cases answer with
    | error e =>
      refine ⟨?_, ?_, ?_, ?_⟩
      · rw [form]
        exact ⟨fit, distinct⟩
      · intro path isOk
        rw [form] at isOk
        cases isOk
      · intro e' isError
        rw [form] at isError
        exact ⟨e, (Except.error.inj isError).symm⟩
      · intro g mem _
        rw [form]
        exact guards ▸ mem
    | ok pool =>
      have poolDistinct : Distinct pool := view pool rfl ▸ distinct
      -- with a pool, all is said by the choice that is made from it
      obtain ⟨refreshed, good, bad⟩ := Guards.choosePath_spec c₁.dice exclude fit poolDistinct
      refine ⟨?_, ?_, ?_, ?_⟩
      · rw [form]
        exact ⟨refreshed.fit, distinct⟩
      · intro path isOk
        rw [form] at isOk ⊢
        obtain ⟨fits, full⟩ := good path isOk
        exact ⟨pool, by rw [asked], fits, refreshed.fit.distinct, refreshed.inPool, full⟩
      · intro e isError
        rw [form] at isError
        exact bad e isError
      · intro g mem inPool
        rw [form]
        exact refreshed.kept g (guards ▸ mem) (inPool pool (by rw [asked]))

theorem tidy_of_sublist {guards : List Node} (tidy : Tidy plan c)
    (within : guards.Sublist c.guards) : Guards.Fit plan guards :=
  ⟨tidy.guards.distinct.sublist within, Nat.le_trans within.length_le tidy.guards.bounded⟩

theorem dropKey_eq (key : String) (c : Client ω) :
    (dropKey key c).2.guards = Pool.without c.guards key ∧
      (dropKey key c).2.store.viewPool = Pool.without c.store.viewPool key := by
  unfold dropKey SeedSource.dropKey
  rw [Act.bind_apply, Act.bind_apply, Act.pool_apply, Act.modify_apply]
  by_cases has : Pool.hasKey c.store.viewPool key = true
  · rw [if_pos has]
    exact ⟨rfl, rfl⟩
  · rw [if_neg has]
    refine ⟨rfl, ?_⟩
    -- nothing has the key, so there is nothing to leave out
    have all : Pool.without c.store.viewPool key = c.store.viewPool := by
      refine List.filter_eq_self.2 fun n mem => ?_
      have other : (n.key == key) = false := by
        rw [Pool.hasKey, List.any_eq_true] at has
        exact Bool.eq_false_iff.2 fun same => has ⟨n, mem, same⟩
      simp [bne, other]
    rw [all]
    rfl

theorem Step.tidy (step : Step source plan c c') (tidy : Tidy plan c) : Tidy plan c' := by
  cases step with
  | get exclude => exact (get_spec source exclude tidy).1
  | dropPath path => exact ⟨tidy_of_sublist tidy List.filter_sublist, tidy.pool⟩
  | dropKey key =>
    obtain ⟨guards, pool⟩ := dropKey_eq key c
    refine ⟨?_, ?_⟩
    · rw [guards]
      exact tidy_of_sublist tidy List.filter_sublist
    · rw [pool]
      exact tidy.pool.sublist List.filter_sublist
  | other guards pool => exact ⟨guards ▸ tidy.guards, pool⟩

theorem Reachable.tidy (reachable : Reachable source plan c) : Tidy plan c := by
  induction reachable with
  | start guards pool =>
    refine ⟨⟨?_, ?_⟩, pool⟩
    · rw [guards]
      exact List.nodup_nil
    · rw [guards]
      exact Nat.zero_le _
  | step _ step ih => exact step.tidy ih

/-- Why a guard of one client is none of the next: a call found that it has left the pool, or a path
that began at it was given up, or its key was. -/
inductive GivenUp (source : SeedSource ω) (plan : PathPlan) (g : Node) :
    Client ω → Client ω → Prop
  | leftPool (c : Client ω) (exclude : Option Node) {pool : List Node}
    (used : (source.ensure c).1 = .ok pool) (gone : g.isIn pool = false) :
    GivenUp source plan g c (get source plan exclude c).2
  | path (c : Client ω) (path : Path) (began : g.same path.guardNode = true) :
    GivenUp source plan g c (dropPath path c).2
  | key (c : Client ω) (key : String) (same : g.key = key) :
    GivenUp source plan g c (dropKey key c).2

theorem Step.givenUp (step : Step source plan c c') (tidy : Tidy plan c) {g : Node}
    (was : g ∈ c.guards) (gone : g ∉ c'.guards) : GivenUp source plan g c c' := by
  cases step with
  | get exclude =>
    have kept := (get_spec source exclude tidy).2.kept g was
    cases asked : (source.ensure c).1 with
    | error e =>
      refine (gone (kept fun pool isOk => ?_)).elim
      cases asked.symm.trans isOk
    | ok pool =>
      refine .leftPool c exclude asked (Bool.eq_false_iff.2 fun inPool => ?_)
      refine gone (kept fun pool' isOk => ?_)
      rw [asked] at isOk
      rw [← Except.ok.inj isOk]
      exact inPool
  | dropPath path =>
    refine .path c path ?_
    by_contra other
    exact gone (List.mem_filter.2 ⟨was, by simpa using other⟩)
  | dropKey key =>
    refine .key c key ?_
    by_contra other
    rw [(dropKey_eq key c).1] at gone
    exact gone (List.mem_filter.2 ⟨was, by simpa using other⟩)
  | other guards _ => exact (gone (guards ▸ was)).elim

/--
**Paths and guards are in order over every run.**  Whatever happened before, a call for a path
chooses well, or finds that there are too few nodes; an onion for the excluded node can be sent along
the path; and a guard is given up for one of three reasons only.
-/
theorem gets_well_of_reachable (reachable : Reachable source plan c) :
    (∀ exclude, GetsWell source plan exclude c) ∧
    (∀ n path, (get source plan (some n) c).1 = .ok path → ∀ cipher turn payload m,
      Onion.build cipher turn path (.node n) payload ≠ .error (.destinationInPath m)) ∧
    ∀ c' g, Step source plan c c' → g ∈ c.guards → g ∉ c'.guards → GivenUp source plan g c c' := by
  have tidy := reachable.tidy
  refine ⟨?_, ?_, ?_⟩
  · intro exclude
    exact (get_spec source exclude tidy).2
  · intro n path isOk cipher turn payload m
    obtain ⟨pool, -, fits, -⟩ := (get_spec source (some n) tidy).2.path path isOk
    intro refused
    obtain ⟨same, isHop⟩ := Onion.build_destinationInPath_iff.1 refused
    obtain rfl := Destination.node.inj same
    rw [fits.excluded n rfl] at isHop
    cases isHop
  · intro c' g step was gone
    exact step.givenUp tidy was gone

/-- A source that is never asked. -/
def trialSource : SeedSource Unit := ⟨[], 1, fun _ _ w => (.error (⟨"no seed"⟩), w)⟩

/-- A client that knows four nodes. -/
def trialClient : Client Unit :=
  { Client.start .empty .zero () with
    store := (Store.fresh .empty).setPool
      [Onion.trialNode 1, Onion.trialNode 2, Onion.trialNode 3, Onion.trialNode 4] }

/-- A node with a key of its own. -/
def lostNode : Node := { Onion.trialNode 5 with keys := ⟨"lost", "lost"⟩ }

/-- What a call for a path leaves. -/
def chosen (c : Client Unit) : Client Unit := (get trialSource (.ofSizes 2 1) none c).2

/-- What is left when the pool is replaced. -/
def repooled (pool : List Node) (c : Client Unit) : Client Unit :=
  { c with store := c.store.setPool pool }

/-- The client after its first path was given up, the guard of its second path was lost, and the
guard of its third left the pool. -/
def travelledClient : Client Unit :=
  let first := (dropPath Onion.trialPath (chosen trialClient)).2
  let second := chosen (repooled [lostNode, Onion.trialNode 2, Onion.trialNode 3] first)
  let third := chosen (dropKey lostNode.key second).2
  repooled [Onion.trialNode 3, Onion.trialNode 4, Onion.trialNode 6] third

theorem step_repooled {pool : List Node} (distinct : Distinct pool) (c : Client Unit) :
    Step trialSource (.ofSizes 2 1) c (repooled pool c) := .other rfl distinct

theorem reachable_travelledClient : Reachable trialSource (.ofSizes 2 1) travelledClient := by
  have start : Reachable trialSource (.ofSizes 2 1) trialClient := .start rfl (by decide)
  have first := (start.step (.get _ none)).step (.dropPath _ Onion.trialPath)
  have other : Distinct [lostNode, Onion.trialNode 2, Onion.trialNode 3] := by decide
  have second := (first.step (step_repooled other _)).step (.get _ none)
  have third := (second.step (.dropKey _ lostNode.key)).step (.get _ none)
  exact third.step (step_repooled (by decide) _)

/-- The client still holds the guard of its third path.  The next path avoids the excluded node, and
the guard is given up, because it has left the pool. -/
theorem gets_well_travelledClient :
    let plan : PathPlan := .ofSizes 2 1
    let next := get trialSource plan (some (Onion.trialNode 4)) travelledClient
    Reachable trialSource plan travelledClient ∧
    travelledClient.guards = [Onion.trialNode 2] ∧
    next.1.toOption.map Path.hops = some [Onion.trialNode 3, Onion.trialNode 6] ∧
    GivenUp trialSource plan (Onion.trialNode 2) travelledClient next.2 ∧
    (∀ exclude, GetsWell trialSource plan exclude travelledClient) ∧
    ∀ n path, (get trialSource plan (some n) travelledClient).1 = .ok path →
      ∀ cipher turn payload m,
        Onion.build cipher turn path (.node n) payload ≠ .error (.destinationInPath m) := by
  intro plan next
  obtain ⟨well, built, givenUp⟩ := gets_well_of_reachable reachable_travelledClient
  have guards : travelledClient.guards = [Onion.trialNode 2] := by decide +kernel
  refine ⟨reachable_travelledClient, guards, by decide +kernel, ?_, well, built⟩
  exact givenUp next.2 (Onion.trialNode 2) (.get _ _) (by decide +kernel) (by decide +kernel)

end Paths
end OnionSwarm

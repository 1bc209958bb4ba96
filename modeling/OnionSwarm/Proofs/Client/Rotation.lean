/-
Nodes that change their keys.

A node stays the same node when it changes its keys, so a new pool may bring other keys for a node
that is a guard.  The hops behind the guard are taken from the pool of the call, keys and all.  The
guards are kept from call to call as they once were, and all that a call asks of them is that the
pool still holds the node.  So a path can carry old keys in one place only, its first hop, and then
that hop is a guard that was taken from an earlier pool (`HeldSince`).
-/
import Mathlib.Tactic.Common
import OnionSwarm.Proofs.Client.Paths

namespace OnionSwarm

/-- The pool holds the node with just these keys. -/
def Node.IsCurrent (pool : List Node) (n : Node) : Prop :=
  ∃ m ∈ pool, m.same n = true ∧ m.keys = n.keys

theorem Node.isCurrent_of_mem {pool : List Node} {n : Node} (mem : n ∈ pool) : n.IsCurrent pool :=
  ⟨n, mem, Node.same_iff.2 rfl, rfl⟩

/-! ### Where hops and guards come from -/

theorem Path.hops_of_ofHops {hops : List Node} {path : Path} (made : Path.ofHops hops = .ok path) :
    path.hops = hops := by
  unfold Path.ofHops at made
  split at made
  · cases made
  · split at made
    · cases made
    · rw [← Except.ok.inj made]

namespace Guards

variable {plan : PathPlan} {pool guards left : List Node} {exclude : Option Node} {d : Dice}

/-- A guard that is left was one before, or is taken from the pool as it is. -/
theorem mem_of_refresh : ∀ g ∈ (refresh d plan pool guards).2.1, g ∈ guards ∨ g ∈ pool := by
  have kept : ∀ g ∈ keep pool guards, g ∈ guards := fun g mem => List.mem_of_mem_filter mem
  unfold refresh
  by_cases few : (keep pool guards).length < plan.guards
  · simp only [if_pos few]
    cases filled : Pool.topUp d pool (keep pool guards) plan.guards with
    | mk result d' =>
      cases result with
      | error e => exact fun g mem => .inl (kept g mem)
      | ok left =>
        intro g mem
        exact (mem_of_topUp (congrArg Prod.fst filled) g mem).imp_left (kept g)
  · simp only [if_neg few]
    exact fun g mem => .inl (kept g mem)

theorem guards_choosePath :
    (choosePath d plan pool guards exclude).2.1 = (refresh d plan pool guards).2.1 := by
  unfold choosePath
  cases refresh d plan pool guards with
  | mk result rest =>
    cases result with
    | error e => rfl
    | ok ok =>
      simp only
      cases chooseHops rest.2 plan pool rest.1 exclude with
      | mk result d => cases result <;> rfl

/-- The hops behind the guard are taken from the pool as it is. -/
theorem tail_of_choosePath {path : Path} (poolDistinct : Distinct pool)
    (chosen : (choosePath d plan pool guards exclude).1 = .ok path) :
    ∀ n ∈ path.hops.tail, n ∈ pool := by
  unfold choosePath at chosen
  cases first : refresh d plan pool guards with
  | mk result rest =>
    obtain ⟨left, d'⟩ := rest
    rw [first] at chosen
    cases result with
    | error e => cases chosen
    | ok ok =>
      simp only at chosen
      cases second : chooseHops d' plan pool left exclude with
      | mk result d'' =>
        rw [second] at chosen
        cases result with
        | error e => cases chosen
        | ok hops =>
          obtain ⟨first, more, rfl, -, -, -, others, -⟩ :=
            chooseHops_spec poolDistinct (congrArg Prod.fst second)
          rw [Path.hops_of_ofHops (show Path.ofHops (first :: more) = .ok path from chosen)]
          exact fun n mem => (others n mem).1

end Guards

/-! ### Over every run -/

namespace Paths

variable {ω : Type} {source : SeedSource ω} {plan : PathPlan} {c c' : Client ω}

/-- A node was in the pool that some call used, became a guard then, and has been one ever since. -/
inductive HeldSince (source : SeedSource ω) (plan : PathPlan) (g : Node) : Client ω → Prop
  | taken {c : Client ω} {exclude : Option Node} {pool : List Node}
    (reachable : Reachable source plan c) (used : (source.ensure c).1 = .ok pool) (mem : g ∈ pool)
    (becomes : g ∈ (get source plan exclude c).2.guards) :
    HeldSince source plan g (get source plan exclude c).2
  | kept {c c' : Client ω} (before : HeldSince source plan g c) (step : Step source plan c c')
    (stays : g ∈ c'.guards) : HeldSince source plan g c'

/-- A guard that a call leaves was one before, or is in the pool that the call used. -/
theorem mem_guards_get {exclude : Option Node} (tidy : Tidy plan c) {g : Node}
    (mem : g ∈ (get source plan exclude c).2.guards) :
    g ∈ c.guards ∨ ∃ pool, (source.ensure c).1 = .ok pool ∧ g ∈ pool := by
  obtain ⟨guards, -, -⟩ := source.ensure_spec tidy.pool
  rw [get_eq] at mem
  cases asked : source.ensure c with
  | mk answer c₁ =>
    rw [asked] at guards mem
    cases answer with
    | error e => exact .inl (guards ▸ mem)
    | ok pool =>
      simp only [Guards.guards_choosePath] at mem
      rw [← guards]
      exact (Guards.mem_of_refresh g mem).imp_right fun inPool => ⟨pool, rfl, inPool⟩

theorem tail_of_get {exclude : Option Node} (tidy : Tidy plan c) {path : Path}
    (got : (get source plan exclude c).1 = .ok path) {pool : List Node}
    (used : (source.ensure c).1 = .ok pool) : ∀ n ∈ path.hops.tail, n ∈ pool := by
  obtain ⟨-, distinct, view⟩ := source.ensure_spec tidy.pool
  rw [get_eq] at got
  cases asked : source.ensure c with
  | mk answer c₁ =>
    rw [asked] at distinct view got used
    obtain rfl : answer = .ok pool := used
    exact Guards.tail_of_choosePath (view pool rfl ▸ distinct) got

theorem Step.heldSince (reachable : Reachable source plan c) (step : Step source plan c c')
    (held : ∀ g ∈ c.guards, HeldSince source plan g c) :
    ∀ g ∈ c'.guards, HeldSince source plan g c' := by
  intro g mem
  cases step with
  | get exclude =>
    rcases mem_guards_get reachable.tidy mem with old | ⟨pool, used, inPool⟩
    · exact .kept (held g old) (.get c exclude) mem
    · exact .taken reachable used inPool mem
  | dropPath path => exact .kept (held g (List.mem_of_mem_filter mem)) (.dropPath c path) mem
  | dropKey key =>
    have was : g ∈ c.guards := by
      rw [(dropKey_eq key c).1] at mem
      exact List.mem_of_mem_filter mem
    exact .kept (held g was) (.dropKey c key) mem
  | other guards pool => exact .kept (held g (guards ▸ mem)) (.other guards pool) mem

theorem Reachable.heldSince (reachable : Reachable source plan c) :
    ∀ g ∈ c.guards, HeldSince source plan g c := by
  induction reachable with
  | start guards pool =>
    rw [guards]
    exact fun g mem => (List.not_mem_nil mem).elim
  | step before step ih => exact step.heldSince before ih

/--
**Only a guard can carry old keys.**  A path carries the keys of the pool that the call used at all
of its hops if it does so at the first one.  If it does not, that hop was a guard before the call,
and it carries the keys that it had when it became one.
-/
theorem hops_current_iff_guard (reachable : Reachable source plan c) (exclude : Option Node)
    {path : Path} (got : (get source plan exclude c).1 = .ok path) :
    ∃ pool, (source.ensure c).1 = .ok pool ∧
      (∀ n ∈ path.hops.tail, n ∈ pool) ∧
      ((∀ n ∈ path.hops, n.IsCurrent pool) ↔ path.guardNode.IsCurrent pool) ∧
      (¬ path.guardNode.IsCurrent pool → path.guardNode.isIn pool = true ∧
        path.guardNode ∈ c.guards ∧ HeldSince source plan path.guardNode c) := by
  have tidy := reachable.tidy
  obtain ⟨pool, used, fits, -⟩ := (get_spec source exclude tidy).2.path path got
  have tail := tail_of_get tidy got used
  have hops : path.hops = path.guardNode :: path.hops.tail := (List.cons_head_tail path.nonempty).symm
  have isHop : path.guardNode ∈ path.hops := List.head_mem path.nonempty
  refine ⟨pool, used, tail, ⟨fun all => all _ isHop, ?_⟩, ?_⟩
  · intro current n mem
    rw [hops] at mem
    rcases List.mem_cons.1 mem with rfl | behind
    · exact current
    · exact Node.isCurrent_of_mem (tail n behind)
  · intro old
    have was : path.guardNode ∈ c.guards := by
      rcases mem_guards_get tidy fits.guard with was | ⟨pool', used', mem⟩
      · exact was
      · rw [used] at used'
        obtain rfl := Except.ok.inj used'
        exact (old (Node.isCurrent_of_mem mem)).elim
    exact ⟨fits.inPool _ isHop, was, reachable.heldSince _ was⟩

/-! ### A guard that changed its keys -/

/-- The same node with other keys. -/
def rotated (n : Node) : Node := { n with keys := ⟨"new", Text.Hex.encode (Bytes.fill 32 9)⟩ }

/-- A client with one guard. -/
def trialKeeper : Client Unit := (get trialSource (.ofSizes 1 1) none trialClient).2

/-- The client after a new pool in which all nodes have other keys. -/
def trialRotated : Client Unit :=
  (Act.setPool (trialClient.store.viewPool.map rotated) trialKeeper).2

theorem distinct_map_rotated {nodes : List Node} (distinct : Distinct nodes) :
    Distinct (nodes.map rotated) := by
  have sites : (nodes.map rotated).map Node.site = nodes.map Node.site := List.map_map
  rw [Distinct, sites]
  exact distinct

theorem reachable_trialRotated : Reachable trialSource (.ofSizes 1 1) trialRotated := by
  have start : Reachable trialSource (.ofSizes 1 1) trialClient := .start rfl (by decide)
  have keeper : Reachable trialSource (.ofSizes 1 1) trialKeeper :=
    .step start (.get trialClient none)
  refine .step keeper (.other rfl ?_)
  exact distinct_map_rotated start.tidy.pool

theorem path_trialRotated : ∃ path, (get trialSource (.ofSizes 1 1) none trialRotated).1 = .ok path ∧
    path.guardNode = Onion.trialNode 1 := by
  have guard : (get trialSource (.ofSizes 1 1) none trialRotated).1.toOption.map Path.guardNode
      = some (Onion.trialNode 1) := by
    decide +kernel
  cases got : (get trialSource (.ofSizes 1 1) none trialRotated).1 with
  | error e =>
    rw [got] at guard
    cases guard
  | ok path =>
    rw [got] at guard
    exact ⟨path, rfl, Option.some.inj guard⟩

theorem not_isCurrent_trialRotated :
    ¬ (Onion.trialNode 1).IsCurrent trialRotated.store.viewPool := by
  rintro ⟨m, mem, -, keys⟩
  obtain ⟨n, -, rfl⟩ := List.mem_map.1 mem
  exact absurd (congrArg NodeKeys.ed25519 keys) (by decide : "new" ≠ "key")

/-- A path that begins with keys which its node has no longer. -/
theorem rotated_guard_in_path :
    Reachable trialSource (.ofSizes 1 1) trialRotated ∧
    ∃ path, (get trialSource (.ofSizes 1 1) none trialRotated).1 = .ok path ∧
      (trialSource.ensure trialRotated).1 = .ok trialRotated.store.viewPool ∧
      path.guardNode.keys = (Onion.trialNode 1).keys ∧
      rotated (Onion.trialNode 1) ∈ trialRotated.store.viewPool ∧
      ¬ path.guardNode.IsCurrent trialRotated.store.viewPool := by
  obtain ⟨path, got, same⟩ := path_trialRotated
  refine ⟨reachable_trialRotated, path, got, rfl, by rw [same], ?_, ?_⟩
  · exact List.mem_map_of_mem List.mem_cons_self
  · rw [same]
    exact not_isCurrent_trialRotated

theorem hops_current_trialRotated :
    ∃ path pool, (get trialSource (.ofSizes 1 1) none trialRotated).1 = .ok path ∧
      (trialSource.ensure trialRotated).1 = .ok pool ∧ ¬ path.guardNode.IsCurrent pool ∧
      path.guardNode.isIn pool = true ∧ path.guardNode ∈ trialRotated.guards ∧
      HeldSince trialSource (.ofSizes 1 1) path.guardNode trialRotated := by
  obtain ⟨path, got, same⟩ := path_trialRotated
  obtain ⟨pool, used, -, -, old⟩ := hops_current_iff_guard reachable_trialRotated none got
  obtain rfl : trialRotated.store.viewPool = pool := Except.ok.inj used
  have notCurrent : ¬ path.guardNode.IsCurrent trialRotated.store.viewPool := by
    rw [same]
    exact not_isCurrent_trialRotated
  exact ⟨path, _, got, rfl, notCurrent, old notCurrent⟩

end Paths
end OnionSwarm

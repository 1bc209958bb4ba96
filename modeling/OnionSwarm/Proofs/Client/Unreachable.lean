/-
A node that is reported unreachable stays out of the paths.

The report names a key, and the nodes of that key leave the pool and the guards.  Neither list bars
the key afterwards; what keeps the node out is that nothing brings new nodes in, except a seed that
is asked for a new pool.  Until then the pool only loses nodes, and a new guard is a node of the
pool (`Recedes`).  So the key, which is in neither list after the report, is never seen again.

A path matches its guards with the pool by address and port, and a guard may carry other keys than
the pool has for it.  Such a guard survives the report of the keys in the pool.  But a pool without
repeats has lost the address and port of the node with it, and every hop of a path is in the pool by
address and port when the path is chosen.
-/
import Mathlib.Tactic.Common
import Mathlib.Logic.Relation
import OnionSwarm.Proofs.Client.Errands
import OnionSwarm.Proofs.Client.Rotation

namespace OnionSwarm.Paths

variable {ω : Type} {source : SeedSource ω} {plan : PathPlan} {c c' d : Client ω} {key : String}

/-! ### Runs in which no seed answers -/

/-- Asked for a path now, the client has a seed replace the pool first. -/
def Refills (source : SeedSource ω) (c : Client ω) : Prop :=
  c.store.viewPool.length < source.minPool ∧ ∃ pool, (source.ensure c).1 = .ok pool

/-- What may happen to the pool and the guards while the pool is not replaced. -/
inductive Quiet (source : SeedSource ω) (plan : PathPlan) : Client ω → Client ω → Prop
  | get (c : Client ω) (exclude : Option Node) (stays : ¬ Refills source c) :
    Quiet source plan c (get source plan exclude c).2
  | penalise (c : Client ω) (path : Path) (failure : OnionFailure) :
    Quiet source plan c (penalise path failure c).2
  | dropPath (c : Client ω) (path : Path) : Quiet source plan c (dropPath path c).2
  | dropKey (c : Client ω) (key : String) : Quiet source plan c (dropKey key c).2
  | other {c c' : Client ω} (guards : c'.guards = c.guards)
    (pool : c'.store.viewPool = c.store.viewPool) : Quiet source plan c c'

/-- A pool that is not refilled is used as it is, and so are the guards. -/
theorem ensure_of_not_refills (stays : ¬ Refills source c) :
    (source.ensure c).2.guards = c.guards ∧
      (source.ensure c).2.store.viewPool = c.store.viewPool ∧
      ∀ pool, (source.ensure c).1 = .ok pool → pool = c.store.viewPool := by
  by_cases enough : source.minPool ≤ c.store.viewPool.length
  · rw [SeedSource.ensure_eq, if_pos enough]
    refine ⟨rfl, rfl, ?_⟩
    intro pool isOk
    exact (Except.ok.inj isOk).symm
  · have failed : ∀ pool, (source.ensure c).1 ≠ .ok pool := by
      intro pool isOk
      exact stays ⟨by omega, pool, isOk⟩
    have asked := SeedSource.ensure_eq source c
    rw [if_neg enough] at asked
    obtain ⟨guards, answered⟩ := source.refresh_spec { c with store := c.store.notePool }
    rw [← asked] at guards answered
    refine ⟨guards, ?_, fun pool isOk => (failed pool isOk).elim⟩
    rcases answered with ⟨nodes, found, -⟩ | ⟨-, view⟩
    · exact (failed nodes found).elim
    · exact view

theorem viewPool_get (source : SeedSource ω) (plan : PathPlan) (exclude : Option Node)
    (c : Client ω) :
    (get source plan exclude c).2.store.viewPool = (source.ensure c).2.store.viewPool := by
  rw [get_eq]
  cases source.ensure c with
  | mk answer c₁ => cases answer <;> rfl

/-! ### Nothing new comes in -/

/-- The pool has lost nodes at most, and every guard was one before or is from the pool. -/
structure Recedes (c c' : Client ω) : Prop where
  pool : c'.store.viewPool.Sublist c.store.viewPool
  guards : ∀ g ∈ c'.guards, g ∈ c.guards ∨ g ∈ c.store.viewPool

namespace Recedes

theorem refl (c : Client ω) : Recedes c c := ⟨.refl _, fun _ mem => .inl mem⟩

theorem trans (first : Recedes c c') (second : Recedes c' d) : Recedes c d := by
  refine ⟨second.pool.trans first.pool, ?_⟩
  intro g mem
  rcases second.guards g mem with was | inPool
  · exact first.guards g was
  · exact .inr (first.pool.subset inPool)

theorem dropPath (c : Client ω) (path : Path) : Recedes c (dropPath path c).2 :=
  ⟨.refl _, fun _ mem => .inl (List.mem_of_mem_filter mem)⟩

theorem dropKey (c : Client ω) (key : String) : Recedes c (dropKey key c).2 := by
  obtain ⟨guards, pool⟩ := dropKey_eq key c
  refine ⟨?_, ?_⟩
  · rw [pool]
    exact List.filter_sublist
  · intro g mem
    rw [guards] at mem
    exact .inl (List.mem_of_mem_filter mem)

/-- Whatever a failure costs is made of the two. -/
theorem giveUp (c : Client ω) (path : Path) (key? : Option String) (whole : Bool) :
    Recedes c (giveUp path key? whole c).2 := by
  cases key? with
  | none =>
    cases whole with
    | false => exact refl c
    | true => exact dropPath c path
  | some key =>
    cases whole with
    | false => exact dropKey c key
    | true => exact (dropKey c key).trans (dropPath _ path)

theorem penalise (c : Client ω) (path : Path) (failure : OnionFailure) :
    Recedes c (penalise path failure c).2 := by
  obtain ⟨key?, whole, told, form⟩ := penalise_eq_giveUp (ω := ω) path failure
  rw [form c]
  exact giveUp c path key? whole

theorem get (tidy : Tidy plan c) (exclude : Option Node) (stays : ¬ Refills source c) :
    Recedes c (get source plan exclude c).2 := by
  obtain ⟨-, view, used⟩ := ensure_of_not_refills stays
  refine ⟨?_, ?_⟩
  · rw [viewPool_get, view]
  · intro g mem
    rcases mem_guards_get tidy mem with was | ⟨pool, isUsed, inPool⟩
    · exact .inl was
    · rw [used pool isUsed] at inPool
      exact .inr inPool

end Recedes

theorem Reachable.giveUp (reachable : Reachable source plan c) (path : Path)
    (key? : Option String) (whole : Bool) :
    Reachable source plan (giveUp path key? whole c).2 := by
  cases key? with
  | none =>
    cases whole with
    | false => exact reachable
    | true => exact .step reachable (.dropPath c path)
  | some key =>
    have dropped : Reachable source plan (dropKey key c).2 := .step reachable (.dropKey c key)
    cases whole with
    | false => exact dropped
    | true => exact .step dropped (.dropPath _ path)

theorem Reachable.penalise (reachable : Reachable source plan c) (path : Path)
    (failure : OnionFailure) : Reachable source plan (penalise path failure c).2 := by
  obtain ⟨key?, whole, told, form⟩ := penalise_eq_giveUp (ω := ω) path failure
  rw [form c]
  exact reachable.giveUp path key? whole

theorem Quiet.spec (quiet : Quiet source plan c c') (reachable : Reachable source plan c) :
    Recedes c c' ∧ Reachable source plan c' := by
  cases quiet with
  | get exclude stays =>
    exact ⟨.get reachable.tidy exclude stays, .step reachable (.get c exclude)⟩
  | penalise path failure =>
    exact ⟨.penalise c path failure, reachable.penalise path failure⟩
  | dropPath path => exact ⟨.dropPath c path, .step reachable (.dropPath c path)⟩
  | dropKey key => exact ⟨.dropKey c key, .step reachable (.dropKey c key)⟩
  | other guards pool =>
    refine ⟨⟨?_, ?_⟩, .step reachable (.other guards ?_)⟩
    · rw [pool]
    · rw [guards]
      exact fun g mem => .inl mem
    · rw [pool]
      exact reachable.tidy.pool

/-- Over a whole run nothing new comes in. -/
theorem recedes_of_quiet (run : Relation.ReflTransGen (Quiet source plan) c c')
    (reachable : Reachable source plan c) : Recedes c c' ∧ Reachable source plan c' := by
  induction run with
  | refl => exact ⟨.refl c, reachable⟩
  | tail _ quiet ih =>
    obtain ⟨recedes, reached⟩ := ih
    obtain ⟨next, reached'⟩ := quiet.spec reached
    exact ⟨recedes.trans next, reached'⟩

/-! ### The report -/

/-- A node is reported: its key is given up, by itself or for a failure that names it. -/
inductive Reports (key : String) (c : Client ω) : Client ω → Prop
  | dropKey : Reports key c (dropKey key c).2
  | hopFailed (path : Path) (reporter : Node) (status : Status) :
    Reports key c (penalise path (.hopFailed reporter key status) c).2

/-- No node of the key is known, and the nodes that had it are not in the pool under other keys. -/
structure Barred (key : String) (lost : List Node) (c : Client ω) : Prop where
  pool : ∀ n ∈ c.store.viewPool, n.key ≠ key
  guards : ∀ g ∈ c.guards, g.key ≠ key
  lost : ∀ n ∈ lost, n.key = key → n.isIn c.store.viewPool = false

theorem ne_of_mem_without {nodes : List Node} {n : Node} (mem : n ∈ Pool.without nodes key) :
    n.key ≠ key := by
  have kept := (List.mem_filter.1 mem).2
  simpa using kept

theorem barred_dropKey (key : String) (distinct : Distinct c.store.viewPool) :
    Barred key c.store.viewPool (dropKey key c).2 := by
  obtain ⟨guards, pool⟩ := dropKey_eq key c
  refine ⟨?_, ?_, ?_⟩
  · rw [pool]
    exact fun n mem => ne_of_mem_without mem
  · rw [guards]
    exact fun g mem => ne_of_mem_without mem
  · intro n mem named
    rw [pool, Bool.eq_false_iff, ne_eq, Node.isIn_iff]
    intro inPool
    obtain ⟨m, left, sameSite⟩ := List.mem_map.1 inPool
    -- the pool has no node twice, so the node that is left would be the one that was dropped
    have same : m = n :=
      List.inj_on_of_nodup_map distinct (List.mem_of_mem_filter left) mem sameSite
    exact ne_of_mem_without left (same ▸ named)

theorem Barred.of_recedes {lost : List Node} (barred : Barred key lost c)
    (recedes : Recedes c c') : Barred key lost c' := by
  refine ⟨?_, ?_, ?_⟩
  · exact fun n mem => barred.pool n (recedes.pool.subset mem)
  · intro g mem
    rcases recedes.guards g mem with was | inPool
    · exact barred.guards g was
    · exact barred.pool g inPool
  · intro n mem named
    have gone := barred.lost n mem named
    rw [Bool.eq_false_iff, ne_eq, Node.isIn_iff] at gone ⊢
    exact fun inPool => gone ((recedes.pool.map Node.site).subset inPool)

/-- A failure that names a key costs the nodes of that key, and the path too if no hop has it. -/
theorem penalise_hopFailed (path : Path) (reporter : Node) (key : String) (status : Status)
    (c : Client ω) :
    (penalise path (.hopFailed reporter key status) c).2
      = (giveUp path (some key) (path.hopWithKey? key).isNone c).2 := by
  cases found : path.hopWithKey? key with
  | none =>
    simp only [penalise, found]
    rfl
  | some hop =>
    have named : hop.key = key :=
      beq_iff_eq.1 (List.find?_some (p := fun n : Node => n.key == key) found)
    simp only [penalise, found, named]
    rfl

theorem Reports.barred (reports : Reports key c c') (distinct : Distinct c.store.viewPool) :
    Barred key c.store.viewPool c' := by
  have dropped := barred_dropKey key distinct
  cases reports with
  | dropKey => exact dropped
  | hopFailed path reporter status =>
    rw [penalise_hopFailed]
    cases (path.hopWithKey? key).isNone with
    | false => exact dropped
    | true => exact dropped.of_recedes (.dropPath _ path)

theorem Reports.reachable (reports : Reports key c c') (reachable : Reachable source plan c) :
    Reachable source plan c' := by
  cases reports with
  | dropKey => exact reachable.step (.dropKey c key)
  | hopFailed path reporter status => exact reachable.penalise path _

/-! ### Paths after the report -/

/-- A path of a client is made of its guards and its pool, and all of it is in the pool. -/
theorem hops_of_get (tidy : Tidy plan c) (stays : ¬ Refills source c) {exclude : Option Node}
    {path : Path} (got : (get source plan exclude c).1 = .ok path) :
    ∀ n ∈ path.hops, n.isIn c.store.viewPool = true ∧ (n ∈ c.guards ∨ n ∈ c.store.viewPool) := by
  obtain ⟨pool, used, fits, -⟩ := (get_spec source exclude tidy).2.path path got
  obtain ⟨-, -, same⟩ := ensure_of_not_refills stays
  obtain rfl := same pool used
  intro n mem
  refine ⟨fits.inPool n mem, ?_⟩
  rw [← List.cons_head_tail path.nonempty] at mem
  rcases List.mem_cons.1 mem with rfl | behind
  · exact (Recedes.get tidy exclude stays).guards _ fits.guard
  · exact .inr (tail_of_get tidy got used n behind)

/--
**A node that is reported unreachable stays out of the paths.**  Whatever happened before the report
and whatever happens after it, until a seed replaces the pool no path has a hop with the reported
key, and none passes a node that the pool lost by the report, with whatever keys a guard may carry
for it.
-/
theorem reported_stays_out (reachable : Reachable source plan c) (reports : Reports key c c')
    (run : Relation.ReflTransGen (Quiet source plan) c' d) (stays : ¬ Refills source d)
    {exclude : Option Node} {path : Path} (got : (get source plan exclude d).1 = .ok path) :
    (∀ hop ∈ path.hops, hop.key ≠ key) ∧
      ∀ n ∈ c.store.viewPool, n.key = key → path.contains n = false := by
  obtain ⟨recedes, reached⟩ := recedes_of_quiet run (reports.reachable reachable)
  have barred := (reports.barred reachable.tidy.pool).of_recedes recedes
  have hops := hops_of_get reached.tidy stays got
  refine ⟨?_, ?_⟩
  · intro hop mem
    rcases (hops hop mem).2 with isGuard | inPool
    · exact barred.guards hop isGuard
    · exact barred.pool hop inPool
  · intro n mem named
    have gone := barred.lost n mem named
    rw [Path.contains, Bool.eq_false_iff, ne_eq, Node.isIn_iff]
    intro isHop
    obtain ⟨hop, within, same⟩ := List.mem_map.1 isHop
    have inPool := Node.isIn_iff.1 (hops hop within).1
    rw [Bool.eq_false_iff, ne_eq, Node.isIn_iff] at gone
    exact gone (same ▸ inPool)

/-! ### A guard with older keys -/

/-- The same node with another Ed25519 key. -/
def renamed (n : Node) (key : String) : Node := { n with keys := { n.keys with ed25519 := key } }

/-- Four nodes with keys of their own. -/
def trialNodes : List Node :=
  [renamed (Onion.trialNode 1) "a", renamed (Onion.trialNode 2) "b",
    renamed (Onion.trialNode 3) "c", renamed (Onion.trialNode 4) "d"]

/-- A client that knows the four nodes and has the first one for its guard. -/
def trialGuarded : Client Unit :=
  (get trialSource (.ofSizes 2 1) none
    { Client.start .empty .zero () with store := (Store.fresh .empty).setPool trialNodes }).2

/-- The client after a new pool, in which the guard has another key. -/
def trialRenewed : Client Unit :=
  (Act.setPool (renamed (Onion.trialNode 1) "e" :: trialNodes.tail) trialGuarded).2

theorem reachable_trialRenewed : Reachable trialSource (.ofSizes 2 1) trialRenewed := by
  have guarded : Reachable trialSource (.ofSizes 2 1) trialGuarded :=
    .step (.start rfl (by decide)) (.get _ none)
  exact .step guarded (.other rfl (by decide))

/-- The guard with the older key outlives the report of the newer one, but no path begins at it. -/
theorem reported_stays_out_trialRenewed :
    Reachable trialSource (.ofSizes 2 1) trialRenewed ∧
    renamed (Onion.trialNode 1) "e" ∈ trialRenewed.store.viewPool ∧
    renamed (Onion.trialNode 1) "a" ∈ (dropKey "e" trialRenewed).2.guards ∧
    ∃ path, (get trialSource (.ofSizes 2 1) none
        (dropKey "c" (dropKey "e" trialRenewed).2).2).1 = .ok path ∧
      (∀ hop ∈ path.hops, hop.key ≠ "e") ∧
      path.contains (renamed (Onion.trialNode 1) "e") = false := by
  have known : renamed (Onion.trialNode 1) "e" ∈ trialRenewed.store.viewPool := List.mem_cons_self
  have outlives : renamed (Onion.trialNode 1) "a" ∈ (dropKey "e" trialRenewed).2.guards := by
    decide +kernel
  have isOk : (get trialSource (.ofSizes 2 1) none
      (dropKey "c" (dropKey "e" trialRenewed).2).2).1.isOk = true := by
    decide +kernel
  have stays : ¬ Refills trialSource (dropKey "c" (dropKey "e" trialRenewed).2).2 := by
    rintro ⟨few, -⟩
    exact absurd few (by decide +kernel)
  obtain ⟨path, got⟩ := Onion.exists_of_isOk isOk
  obtain ⟨keys, sites⟩ := reported_stays_out reachable_trialRenewed .dropKey
    (.single (.dropKey _ "c")) stays got
  exact ⟨reachable_trialRenewed, known, outlives, path, got, keys, sites _ known rfl⟩

end OnionSwarm.Paths

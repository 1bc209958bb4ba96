/-
When a client with valid settings can build a path.

The check of the settings asks for a pool that holds a path and the guards beside it, and that is
enough for every call, at any time and for every throw of the dice, with one exception: a client
that keeps a single guard cannot leave out just that node.
-/
import Mathlib.Tactic.Common
import OnionSwarm.Client.Network
import OnionSwarm.Proofs.Client.Paths
import OnionSwarm.Proofs.Config.Valid
import OnionSwarm.Proofs.Onion.Room

namespace OnionSwarm

variable {ω : Type} {c : Client ω}

/-- A valid configuration asks for a pool that holds a path and the guards. -/
theorem NetworkConfig.room_of_validate {config : NetworkConfig} (valid : config.validate = .ok ()) :
    0 < config.pathSize.toNat ∧ 0 < config.guardCount.toNat ∧
      config.pathSize.toNat + config.guardCount.toNat ≤ config.minPoolSize.toNat := by
  have whole := validate_eq_ok_iff.1 valid
  exact ⟨whole.hops, whole.guards, whole.room⟩

namespace Paths

/-- A pool that is large enough is used as it is. -/
theorem ensure_of_enough {source : SeedSource ω} (enough : source.minPool ≤ c.store.viewPool.length) :
    source.ensure c = (.ok c.store.viewPool, { c with store := c.store.notePool }) := by
  rw [source.ensure_eq, if_pos enough]

/-- A call with a large enough pool fails for one reason only. -/
theorem get_of_room {source : SeedSource ω} {plan : PathPlan} (exclude : Option Node)
    (tidy : Tidy plan c) (enough : source.minPool ≤ c.store.viewPool.length)
    (room : plan.size + plan.guards ≤ source.minPool) :
    (Guards.OnlyExcluded (get source plan exclude c).2.guards exclude →
      (get source plan exclude c).1 = .error (.directory (.tooFewNodes 1 0))) ∧
    (¬ Guards.OnlyExcluded (get source plan exclude c).2.guards exclude →
      ∃ path, (get source plan exclude c).1 = .ok path) ∧
    (get source plan exclude c).2.guards.length = plan.guards := by
  have form := get_eq source plan exclude c
  rw [ensure_of_enough enough] at form
  have after := (get_spec source exclude tidy).1.guards
  obtain ⟨bad, good, count⟩ := Guards.choosePath_of_room c.dice exclude tidy.guards tidy.pool
    (Nat.le_trans room enough)
  have nonempty : 0 < (get source plan exclude c).2.guards.length := by
    rw [form]
    exact count ▸ plan.guards_pos
  rw [← Guards.without_eq_nil_iff after.distinct nonempty, form]
  exact ⟨bad, good, count⟩

/--
**Valid settings and a pool of the size they ask for give a path.**  Whatever was chosen and given
up before, and whatever the dice show, a call ends with a path unless the guards that it is left with
are the excluded node alone; then it finds no guard.  With two guards or more, or with no node
excluded, that cannot be.
-/
theorem get_ok_iff_of_validate (n : Network ω) (valid : n.config.validate = .ok ())
    (reachable : Reachable n.pool n.plan c)
    (enough : n.config.minPoolSize.toNat ≤ c.store.viewPool.length) (exclude : Option Node) :
    ((∃ path, (get n.pool n.plan exclude c).1 = .ok path) ↔
      ¬ Guards.OnlyExcluded (get n.pool n.plan exclude c).2.guards exclude) ∧
    (∀ e, (get n.pool n.plan exclude c).1 = .error e → e = .directory (.tooFewNodes 1 0)) ∧
    (1 < n.config.guardCount.toNat ∨ exclude = none →
      ∃ path, (get n.pool n.plan exclude c).1 = .ok path) := by
  obtain ⟨hops, guards, room⟩ := NetworkConfig.room_of_validate valid
  have size : n.plan.size = n.config.pathSize.toNat := Nat.max_eq_left hops
  have wanted : n.plan.guards = n.config.guardCount.toNat := Nat.max_eq_left guards
  have asked : n.pool.minPool = n.config.minPoolSize.toNat := rfl
  have largeEnough : n.plan.size + n.plan.guards ≤ n.pool.minPool := by
    rw [size, wanted, asked]
    exact room
  obtain ⟨bad, good, count⟩ := get_of_room exclude reachable.tidy enough largeEnough
  refine ⟨⟨?_, good⟩, ?_, ?_⟩
  · rintro ⟨path, isOk⟩ only
    rw [bad only] at isOk
    cases isOk
  · intro e failed
    by_cases only : Guards.OnlyExcluded (get n.pool n.plan exclude c).2.guards exclude
    · rw [bad only] at failed
      exact (Except.error.inj failed).symm
    · obtain ⟨path, isOk⟩ := good only
      rw [isOk] at failed
      cases failed
  · intro apart
    refine good ?_
    rintro ⟨g, m, single, isExcluded, -⟩
    rw [single, List.length_singleton, wanted] at count
    -- a single guard that is excluded is against both assumptions
    rcases apart with several | none
    · omega
    · rw [none] at isExcluded
      cases isExcluded

/-- A network with paths, guards and pools of some sizes. -/
def sizedNetwork (pathSize guardCount minPoolSize : UInt64) : Network Unit :=
  { config := { NetworkConfig.standard with pathSize, guardCount, minPoolSize }
    seedPost := fun _ _ w => (.error ⟨"no seed"⟩, w)
    onionPost := fun _ _ w => (.error ⟨"no guard"⟩, w)
    cipher := .transparent
    timer := ⟨fun w => (0, w), fun w => (0, w), fun _ w => ((), w)⟩ }

/-- Four nodes are just enough for two hops and two guards. -/
theorem get_ok_sizedNetwork :
    (sizedNetwork 2 2 4).config.validate = .ok () ∧
    Reachable (sizedNetwork 2 2 4).pool (sizedNetwork 2 2 4).plan trialClient ∧
    (sizedNetwork 2 2 4).config.minPoolSize.toNat ≤ trialClient.store.viewPool.length ∧
    ∃ path, (get (sizedNetwork 2 2 4).pool (sizedNetwork 2 2 4).plan (some (Onion.trialNode 2))
      trialClient).1 = .ok path := by
  have reachable : Reachable (sizedNetwork 2 2 4).pool (sizedNetwork 2 2 4).plan trialClient :=
    .start rfl (by decide)
  have valid : (sizedNetwork 2 2 4).config.validate = .ok () := by decide +kernel
  refine ⟨valid, reachable, by decide, ?_⟩
  exact (get_ok_iff_of_validate (sizedNetwork 2 2 4) valid reachable
    (by decide) (some (Onion.trialNode 2))).2.2 (.inl (by decide))

/-- The client once it has taken its only guard. -/
def guardedClient : Client Unit :=
  (get (sizedNetwork 1 1 2).pool (sizedNetwork 1 1 2).plan none trialClient).2

/-- Settings that pass the check and yet give no path: with a single guard, when it is excluded. -/
theorem get_error_of_validate :
    (sizedNetwork 1 1 2).config.validate = .ok () ∧
    Reachable (sizedNetwork 1 1 2).pool (sizedNetwork 1 1 2).plan guardedClient ∧
    Distinct guardedClient.store.viewPool ∧ guardedClient.store.viewPool.length = 4 ∧
    (get (sizedNetwork 1 1 2).pool (sizedNetwork 1 1 2).plan (some (Onion.trialNode 1))
      guardedClient).1 = .error (.directory (.tooFewNodes 1 0)) := by
  have reachable : Reachable (sizedNetwork 1 1 2).pool (sizedNetwork 1 1 2).plan guardedClient :=
    .step (.start rfl (by decide)) (.get trialClient none)
  exact ⟨by decide +kernel, reachable, reachable.tidy.pool, rfl, rfl⟩

end Paths
end OnionSwarm

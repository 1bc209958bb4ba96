/-
What the check of a configuration comes to.

The sizes are words, and their sum is computed as one.  It may be none, and then the check is broken
off, whatever the other settings are (`validate_eq_overflow_iff`).  If it is a word, it is the true
sum.  So settings that pass the check are a valid whole in natural numbers (`validate_eq_ok_iff`),
with no care taken of the size of a word.
-/
import Mathlib.Tactic.Common
import OnionSwarm.Config.Network

namespace OnionSwarm.NetworkConfig

variable {c : NetworkConfig}

/-- Settings that are a valid whole. -/
structure Valid (c : NetworkConfig) : Prop where
  hops : 1 ≤ c.pathSize.toNat
  guards : 1 ≤ c.guardCount.toNat
  room : c.pathSize.toNat + c.guardCount.toNat ≤ c.minPoolSize.toNat
  swarm : 1 ≤ c.minSwarmSize.toNat
  timeout : 1 ≤ c.httpTimeout.toNat
  attempts : 1 ≤ c.retry.maxAttempts.toNat
  seeds : checkSeeds c.environment = .ok ()

/-- Settings with a hop and a guard at least, and with a sum of the two sizes that is no word. -/
structure Overflows (c : NetworkConfig) : Prop where
  hops : 1 ≤ c.pathSize.toNat
  guards : 1 ≤ c.guardCount.toNat
  sum : UInt64.size ≤ c.pathSize.toNat + c.guardCount.toNat

/-- The pool of a valid whole is a word, so the sum that fits in it is one. -/
theorem Valid.sum_lt (valid : c.Valid) :
    c.pathSize.toNat + c.guardCount.toNat < UInt64.size :=
  Nat.lt_of_le_of_lt valid.room c.minPoolSize.toNat_lt_size

theorem one_le_iff (n : UInt64) : 1 ≤ n.toNat ↔ ¬ n = 0 := by
  rw [← UInt64.toNat_inj, UInt64.toNat_zero]
  omega

theorem one_le_iff_half (n : UInt32) : 1 ≤ n.toNat ↔ ¬ n = 0 := by
  rw [← UInt32.toNat_inj, UInt32.toNat_zero]
  omega

/-- A sum that is a word is compared as the number that it is. -/
theorem room_iff {hops guards pool : UInt64} (isWord : hops.toNat + guards.toNat < UInt64.size) :
    hops.toNat + guards.toNat ≤ pool.toNat ↔ ¬ pool < hops + guards := by
  have sum : (hops + guards).toNat = hops.toNat + guards.toNat := by
    rw [UInt64.toNat_add]
    exact Nat.mod_eq_of_lt isWord
  rw [UInt64.lt_iff_toNat_lt, sum, Nat.not_lt]

theorem checkSeeds_ne_overflow (e : Environment) : checkSeeds e ≠ .error .overflow := by
  unfold checkSeeds
  split
  · exact nofun
  · exact nofun
  · split <;> exact nofun

/-- **A configuration passes the check exactly if it is a valid whole.** -/
theorem validate_eq_ok_iff : c.validate = .ok () ↔ c.Valid := by
  constructor
  · intro valid
    unfold validate at valid
    -- one refusal after the other, and the seeds at the end
    split at valid
    · cases valid
    split at valid
    · cases valid
    split at valid
    · cases valid
    split at valid
    · cases valid
    split at valid
    · cases valid
    split at valid
    · cases valid
    split at valid
    · cases valid
    rename_i hops guards isWord room swarm timeout attempts
    exact ⟨(one_le_iff _).2 hops, (one_le_iff _).2 guards, (room_iff (Nat.not_le.1 isWord)).2 room,
      (one_le_iff _).2 swarm, (one_le_iff _).2 timeout, (one_le_iff_half _).2 attempts, valid⟩
  · intro valid
    rw [validate, if_neg ((one_le_iff _).1 valid.hops), if_neg ((one_le_iff _).1 valid.guards),
      if_neg (Nat.not_le.2 valid.sum_lt), if_neg ((room_iff valid.sum_lt).1 valid.room),
      if_neg ((one_le_iff _).1 valid.swarm), if_neg ((one_le_iff _).1 valid.timeout),
      if_neg ((one_le_iff_half _).1 valid.attempts)]
    exact valid.seeds

/-- **The check is broken off exactly if there are a hop and a guard and their sum is no word.** -/
theorem validate_eq_overflow_iff : c.validate = .error .overflow ↔ c.Overflows := by
  constructor
  · intro overflow
    unfold validate at overflow
    split at overflow
    · cases overflow
    split at overflow
    · cases overflow
    rename_i hops guards
    split at overflow
    · rename_i sum
      exact ⟨(one_le_iff _).2 hops, (one_le_iff _).2 guards, sum⟩
    -- behind the sum nothing overflows
    split at overflow
    · cases overflow
    split at overflow
    · cases overflow
    split at overflow
    · cases overflow
    split at overflow
    · cases overflow
    · exact absurd overflow (checkSeeds_ne_overflow _)
  · intro overflows
    rw [validate, if_neg ((one_le_iff _).1 overflows.hops),
      if_neg ((one_le_iff _).1 overflows.guards), if_pos overflows.sum]

end OnionSwarm.NetworkConfig

/-
Which sizes are accepted.

However a configuration reaches the client, it was checked: it is handed over, it stands in a file,
or it is what a call has made of the settings.  So the pool that it asks for holds a path and the
guards, in natural numbers.

What the check does not have is an answer for all sizes.  Nothing keeps the sum of path and guards
within a word, and where it is none the check is broken off, and with it the reading of the file or
the call.
-/
import OnionSwarm.Proofs.Cli.Settings

namespace OnionSwarm.Cli

variable {c : NetworkConfig}

/-- A configuration that the client works with. -/
inductive Accepted : NetworkConfig → Prop
  /-- It is handed over, -/
  | handed {c : NetworkConfig} (isOk : c.validate = .ok ()) : Accepted c
  /-- or read from a file of its own, -/
  | loaded {c : NetworkConfig} {file : Option Bytes} (isOk : NetworkConfig.load file = .ok c) :
    Accepted c
  /-- or with the settings of the command, -/
  | onFile {s : Settings} {file : FileContents} (isOk : Settings.load file = .ok s) :
    Accepted s.network
  /-- or changed with them by a call. -/
  | set {s t : Settings} {key value : String} (isOk : s.set key value = .ok t) :
    Accepted t.network

theorem valid_of_load {file : Option Bytes} (isOk : NetworkConfig.load file = .ok c) : c.Valid := by
  unfold NetworkConfig.load at isOk
  split at isOk
  · cases isOk
  · unfold NetworkConfig.parse at isOk
    simp only at isOk
    split at isOk
    · cases isOk
    · split at isOk
      · rename_i checked
        exact NetworkConfig.validate_eq_ok_iff.1 (Except.ok.inj isOk ▸ checked)
      · cases isOk

theorem Settings.valid_of_load {s : Settings} {file : FileContents} (isOk : load file = .ok s) :
    s.network.Valid := by
  unfold load at isOk
  split at isOk
  · cases isOk
  · rw [← Except.ok.inj isOk]
    exact NetworkConfig.validate_eq_ok_iff.1 (by decide)
  · unfold parse at isOk
    split at isOk
    · cases isOk
    · simp only at isOk
      split at isOk
      · cases isOk
      · obtain ⟨rfl, checked⟩ := valid_of_check isOk
        exact NetworkConfig.validate_eq_ok_iff.1 checked

/-- All of them were checked. -/
theorem Accepted.valid (accepted : Accepted c) : c.Valid := by
  cases accepted with
  | handed isOk => exact NetworkConfig.validate_eq_ok_iff.1 isOk
  | loaded isOk => exact valid_of_load isOk
  | onFile isOk => exact Settings.valid_of_load isOk
  | set isOk => exact NetworkConfig.validate_eq_ok_iff.1 (Settings.set_ok isOk).2

/-- The check of a configuration is broken off under one condition, wherever it comes from. -/
structure BrokenOffIff (c : NetworkConfig) (condition : Prop) : Prop where
  /-- It is handed over, -/
  handed : c.validate = .error .overflow ↔ condition
  /-- or read from a file of its own, -/
  loaded : ∀ file, NetworkConfig.ReadsAs file c →
    (NetworkConfig.load file = .error .overflow ↔ condition)
  /-- or with the settings of the command, -/
  onFile : ∀ file s, Settings.ReadsAs file s → s.network = c →
    (Settings.load file = .error .brokenOff ↔ condition)
  /-- or it is what a call makes of the settings. -/
  set : ∀ (s t : Settings) key value, s.change key value = .ok t → t.network = c →
    (s.set key value = .error .brokenOff ↔ condition)

theorem brokenOffIff_overflows (c : NetworkConfig) : BrokenOffIff c c.Overflows where
  handed := NetworkConfig.validate_eq_overflow_iff
  loaded file reads := by
    rw [NetworkConfig.load_of_readsAs reads, ← NetworkConfig.validate_eq_overflow_iff]
    cases c.validate with
    | ok _ => exact ⟨nofun, nofun⟩
    | error e =>
      show Except.error e = _ ↔ Except.error e = _
      rw [Except.error.injEq, Except.error.injEq]
  onFile file s reads same := by
    rw [Settings.load_of_readsAs reads, Settings.check_eq_brokenOff_iff, same]
  set s t key value changed same := by
    rw [Settings.set_eq_brokenOff_iff, changed, ← same]
    exact ⟨fun ⟨_, isOk, overflows⟩ => Except.ok.inj isOk ▸ overflows,
      fun overflows => ⟨t, rfl, overflows⟩⟩

/-- **Sizes that are accepted leave room for a path and the guards, but not all are compared.**

A configuration that is accepted has a hop and a guard at least, and its pool holds a path and the
guards; and every valid whole passes the check.  But for some sizes there is no answer at all: with
a hop and a guard, the check is broken off if and only if their sum is no word. -/
theorem room_or_overflow (c : NetworkConfig) :
    (Accepted c → 1 ≤ c.pathSize.toNat ∧ 1 ≤ c.guardCount.toNat ∧
      c.pathSize.toNat + c.guardCount.toNat ≤ c.minPoolSize.toNat) ∧
    (c.validate = .ok () ↔ c.Valid) ∧
    BrokenOffIff c (1 ≤ c.pathSize.toNat ∧ 1 ≤ c.guardCount.toNat ∧
      UInt64.size ≤ c.pathSize.toNat + c.guardCount.toNat) := by
  refine ⟨fun accepted => ?_, NetworkConfig.validate_eq_ok_iff, ?_⟩
  · have valid := accepted.valid
    exact ⟨valid.hops, valid.guards, valid.room⟩
  · have sizes : c.Overflows ↔ 1 ≤ c.pathSize.toNat ∧ 1 ≤ c.guardCount.toNat ∧
        UInt64.size ≤ c.pathSize.toNat + c.guardCount.toNat :=
      ⟨fun o => ⟨o.hops, o.guards, o.sum⟩, fun ⟨hops, guards, sum⟩ => ⟨hops, guards, sum⟩⟩
    rw [← propext sizes]
    exact brokenOffIff_overflows c

/-- The standard settings with paths of another size. -/
def sized (hops : UInt64) : Settings :=
  { Settings.standard with network := { NetworkConfig.standard with pathSize := hops } }

/-- Ten hops and two guards are all that a pool of twelve nodes holds. -/
theorem room_or_overflow_sized :
    Settings.standard.set "path_size" "10" = .ok (sized 10) ∧
    Settings.standard.set "path_size" "11"
      = .error (.told ["Invalid network config",
        "Invalid value for min_pool_size: must hold a full path plus the guard set"]) ∧
    (sized 10).network.pathSize.toNat + (sized 10).network.guardCount.toNat
      ≤ (sized 10).network.minPoolSize.toNat := by
  have isOk : Settings.standard.set "path_size" "10" = .ok (sized 10) := by decide
  exact ⟨isOk, by decide, ((room_or_overflow _).1 (.set isOk)).2.2⟩

/-- The size of a path is to be the last of all words.  With the two guards there is no sum of 64
bits, so the check has no answer: it is broken off when the settings are handed over, when they are
loaded, and when a call has made them of the standard ones. -/
theorem lastWord_overflows :
    (sized 18446744073709551615).network.validate = .error .overflow ∧
    NetworkConfig.load (some (Bytes.ofString (sized 18446744073709551615).network.save))
      = .error .overflow ∧
    Settings.load (sized 18446744073709551615).file = .error .brokenOff ∧
    Settings.standard.set "path_size" "18446744073709551615" = .error .brokenOff := by
  have overflows : (sized 18446744073709551615).network.Overflows := by
    refine ⟨?_, ?_, ?_⟩ <;> decide +kernel
  have ends := brokenOffIff_overflows (sized 18446744073709551615).network
  refine ⟨ends.handed.2 overflows, (ends.loaded _ (NetworkConfig.readsAs_save _)).2 overflows,
    (ends.onFile _ _ (Settings.readsAs_file _) rfl).2 overflows,
    (ends.set _ (sized 18446744073709551615) _ _ ?_ rfl).2 overflows⟩
  decide +kernel

end OnionSwarm.Cli

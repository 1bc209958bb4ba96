/-
Settings can always be loaded again.

There are two halves to this.  Settings that are a valid whole are read back from their file, because
each field is read from the member that was written of it (`load_file`).  And a call that changes a
setting keeps the settings a valid whole, or fails and keeps nothing, so whatever was called, what is
in memory is valid (`validate_after`).  A call whose check is broken off is one of those that fail:
the change was made on a copy, which is lost with it (`set_eq_brokenOff_iff`).

What else a call does is read off the parts of the settings.  There are fewer of them than keys: two
keys are about the environment.  A call that succeeds puts one value in the part of its key
(`change_ok`), and the value does not depend on what was there before, with one exception: the
environment becomes a custom one with the seeds in use, which it still has when that is done again.
-/
import Mathlib.Tactic.Common
import OnionSwarm.Cli.Settings
import OnionSwarm.Proofs.Config.Network
import OnionSwarm.Proofs.Config.Valid

namespace OnionSwarm.Cli.Settings

open Json (Record written Legible)

variable {s t : Settings} {key value : String}

/-! ### The file -/

/-- The file that settings are saved to. -/
def file (s : Settings) : FileContents := .ok (some (Bytes.ofString s.save))

theorem legible (s : Settings) : Legible s.toJson := by
  have path : Legible ((s.storagePath.map .text).getD .null) := by cases s.storagePath <;> trivial
  exact ⟨s.network.legible, path, trivial, trivial⟩

theorem read_written (s : Settings) : record.read "settings" (written s.toJson) = .ok s := by
  have network : NetworkConfig.ofWritten 1 (written s.network.toJson) = .ok s.network :=
    NetworkConfig.ofWritten_written (by decide) _
  have path : (written ((s.storagePath.map .text).getD .null)).asString? = .ok s.storagePath := by
    cases s.storagePath <;> rfl
  have holds : record.Holds [("network", written s.network.toJson),
      ("storage_path", written ((s.storagePath.map .text).getD .null)),
      ("log_to_file", written (.bool s.logToFile))] s :=
    Record.holds_of Settings.mk |>.field network |>.field path |>.field rfl
  exact Record.read_written holds (by simp) "settings"

theorem check_eq (valid : s.network.validate = .ok ()) : s.check = .ok s := by
  rw [check, valid]

theorem valid_of_check (isOk : s.check = .ok t) : t = s ∧ s.network.validate = .ok () := by
  rw [check] at isOk
  split at isOk
  · exact ⟨(Except.ok.inj isOk).symm, ‹_›⟩
  · cases isOk
  · cases isOk

/-- The check of settings is broken off with the one of the network's. -/
theorem check_eq_brokenOff_iff : s.check = .error .brokenOff ↔ s.network.Overflows := by
  rw [← NetworkConfig.validate_eq_overflow_iff, check]
  split
  · rename_i valid
    rw [valid]
    exact ⟨nofun, nofun⟩
  · rename_i overflow
    exact ⟨fun _ => overflow, fun _ => rfl⟩
  · rename_i e told refused
    rw [refused]
    exact ⟨nofun, fun overflow => absurd (Except.error.inj overflow) told⟩

/-- A file is read as some settings, which are not checked yet. -/
def ReadsAs (file : FileContents) (s : Settings) : Prop :=
  ∃ bytes contents, file = .ok (some bytes) ∧ Text.Utf8.decode? bytes = some contents ∧
    Json.Written.readAs (record.read "settings") (Bytes.ofString contents) = .ok s

theorem readsAs_file (s : Settings) : ReadsAs s.file s := by
  refine ⟨Bytes.ofString s.save, s.save, rfl, ?_, ?_⟩
  · rw [Text.Utf8.decode?_ofString]
  · simp only [save, Json.Written.readAs, Json.read_renderWide s.legible, read_written,
      Json.unlessStopped]

/-- Settings that are read from a file are loaded if they pass the check. -/
theorem load_of_readsAs {file : FileContents} (reads : ReadsAs file s) : load file = s.check := by
  obtain ⟨bytes, contents, rfl, text, isOk⟩ := reads
  simp only [load, parse, text, isOk]

/-- Settings that are a valid whole are loaded from their file. -/
theorem load_file (valid : s.network.validate = .ok ()) : load s.file = .ok s := by
  rw [load_of_readsAs s.readsAs_file, check_eq valid]

/-! ### The parts of the settings -/

/-- The parts of the settings that are changed by themselves. -/
inductive Part where
  | environment
  | pathSize
  | guardCount
  | minPoolSize
  | minSwarmSize
  | batchWindow
  | httpTimeout
  | clockInterval
  | maxAttempts
  | backoff
  | storagePath
  | logToFile
  deriving DecidableEq, Repr

namespace Part

/-- What may stand in a part. -/
@[reducible] def Value : Part → Type
  | environment => Environment
  | pathSize | guardCount | minPoolSize | minSwarmSize | batchWindow | httpTimeout
  | clockInterval => UInt64
  | maxAttempts => UInt32
  | backoff => Backoff
  | storagePath => Option String
  | logToFile => Bool

/-- What stands in a part. -/
def get (s : Settings) : (p : Part) → p.Value
  | environment => s.network.environment
  | pathSize => s.network.pathSize
  | guardCount => s.network.guardCount
  | minPoolSize => s.network.minPoolSize
  | minSwarmSize => s.network.minSwarmSize
  | batchWindow => s.network.batchWindow
  | httpTimeout => s.network.httpTimeout
  | clockInterval => s.network.clockInterval
  | maxAttempts => s.network.retry.maxAttempts
  | backoff => s.network.retry.backoff
  | storagePath => s.storagePath
  | logToFile => s.logToFile

/-- The part that a key is about. -/
def ofKey? : String → Option Part
  | "environment" | "seeds" => some environment
  | "path_size" => some pathSize
  | "guard_count" => some guardCount
  | "min_pool_size" => some minPoolSize
  | "min_swarm_size" => some minSwarmSize
  | "batch_window_ms" => some batchWindow
  | "http_timeout_secs" => some httpTimeout
  | "clock_resync_interval_secs" => some clockInterval
  | "retry.max_attempts" => some maxAttempts
  | "retry.delay_ms" => some backoff
  | "storage_path" => some storagePath
  | "log_to_file" => some logToFile
  | _ => none

/-- The settings with these parts. -/
def ofParts (part : (p : Part) → p.Value) : Settings where
  network :=
    { environment := part environment
      pathSize := part pathSize
      guardCount := part guardCount
      minPoolSize := part minPoolSize
      minSwarmSize := part minSwarmSize
      batchWindow := part batchWindow
      httpTimeout := part httpTimeout
      clockInterval := part clockInterval
      retry := ⟨part maxAttempts, part backoff⟩ }
  storagePath := part storagePath
  logToFile := part logToFile

theorem get_ofParts (part : (p : Part) → p.Value) (p : Part) : get (ofParts part) p = part p := by
  cases p <;> rfl

/-- The parts are all that there is of settings. -/
theorem eq_of_get (same : ∀ p, get s p = get t p) : s = t :=
  show ofParts (get s) = ofParts (get t) from congrArg ofParts (funext same)

/-- The settings with something else in one part. -/
def put (s : Settings) (p : Part) (v : p.Value) : Settings := ofParts (Function.update (get s) p v)

theorem get_put (s : Settings) (p : Part) (v : p.Value) : get (put s p v) p = v := by
  rw [put, get_ofParts, Function.update_self]

theorem get_put_of_ne {p q : Part} (ne : q ≠ p) (s : Settings) (v : p.Value) :
    get (put s p v) q = get s q := by
  rw [put, get_ofParts, Function.update_of_ne ne]

theorem put_put (s : Settings) (p : Part) (v : p.Value) : put (put s p v) p v = put s p v := by
  refine eq_of_get fun q => ?_
  by_cases same : q = p
  · subst same
    rw [get_put, get_put]
  · rw [get_put_of_ne same]

/-- What a text means for a part, under a key that is about it. -/
def read (key value : String) (now : Environment) : (p : Part) → Except Failure p.Value
  | environment =>
    if key = "seeds" then .ok (.custom (seedList value)) else Settings.environment now value
  | pathSize | guardCount | minPoolSize | minSwarmSize | batchWindow | httpTimeout
  | clockInterval => word value
  | maxAttempts => UInt32.ofNat <$> number Text.Decimal.last32 value
  | backoff => Settings.backoff <$> word value
  | storagePath => .ok (if value.isEmpty then none else some value)
  | logToFile => truth value

/-- Only a custom environment depends on what was there before, and it keeps the seeds. -/
theorem environment_again {now e : Environment}
    (isOk : Settings.environment now value = .ok e) : Settings.environment e value = .ok e := by
  rw [Settings.environment] at isOk ⊢
  by_cases mainnet : value = "mainnet"
  · rwa [if_pos mainnet] at isOk ⊢
  rw [if_neg mainnet] at isOk ⊢
  by_cases custom : value = "custom"
  · rw [if_pos custom] at isOk ⊢
    obtain rfl := Except.ok.inj isOk
    rfl
  · rw [if_neg custom] at isOk
    cases isOk

/-- What a text means stays the same once it is put where it belongs. -/
theorem read_put {p : Part} {v : p.Value} (isOk : read key value s.network.environment p = .ok v) :
    read key value (put s p v).network.environment p = .ok v := by
  cases p with
  | environment =>
    rw [read] at isOk ⊢
    by_cases seeds : key = "seeds"
    · rwa [if_pos seeds] at isOk ⊢
    · rw [if_neg seeds] at isOk ⊢
      exact environment_again isOk
  | _ => exact isOk

end Part

/-- **A change puts in the part of its key what the text means there.** -/
theorem change_eq (s : Settings) (key value : String) :
    s.change key value =
      match Part.ofKey? key with
      | none => .error (.told ["Unknown config key: " ++ key])
      | some p => Part.put s p <$> Part.read key value s.network.environment p := by
  unfold change
  split
  -- the keys are told apart by what their text is read with
  case h_1 =>
    simp only [Part.ofKey?, Part.read]
    cases environment s.network.environment value <;> rfl
  case h_3 | h_4 | h_5 | h_6 | h_7 | h_8 | h_9 | h_11 =>
    simp only [Part.ofKey?, Part.read]
    cases word value <;> rfl
  case h_10 =>
    simp only [Part.ofKey?, Part.read]
    cases number Text.Decimal.last32 value <;> rfl
  case h_13 =>
    simp only [Part.ofKey?, Part.read]
    cases truth value <;> rfl
  case h_2 | h_12 => rfl
  case h_14 =>
    have unknown : Part.ofKey? key = none := by simp_all [Part.ofKey?]
    rw [unknown]
    rfl

theorem change_ok (isOk : s.change key value = .ok t) :
    ∃ p v, Part.ofKey? key = some p ∧ Part.read key value s.network.environment p = .ok v ∧
      t = Part.put s p v := by
  rw [change_eq] at isOk
  cases key? : Part.ofKey? key with
  | none =>
    rw [key?] at isOk
    cases isOk
  | some p =>
    simp only [key?] at isOk
    cases means : Part.read key value s.network.environment p with
    | error e =>
      rw [means] at isOk
      cases isOk
    | ok v =>
      rw [means] at isOk
      exact ⟨p, v, rfl, means, (Except.ok.inj isOk).symm⟩

/-- A change that cannot be made is told: nothing is checked before it is made. -/
theorem change_ne_brokenOff (s : Settings) (key value : String) :
    s.change key value ≠ .error .brokenOff := by
  have numbers (last : Nat) : number last value ≠ .error .brokenOff := by
    rw [number]
    split <;> exact nofun
  have mapped {α β : Type} {f : α → β} {read : Except Failure α}
      (isTold : read ≠ .error .brokenOff) : f <$> read ≠ .error .brokenOff := by
    cases read with
    | ok a => exact nofun
    | error e => exact fun broken => isTold (congrArg Except.error (Except.error.inj broken))
  -- the value is read by one of a few readers, and what they say is all that can fail
  rw [change_eq]
  cases Part.ofKey? key with
  | none => exact nofun
  | some p =>
    refine mapped ?_
    cases p with
    | environment =>
      rw [Part.read, environment]
      split
      · exact nofun
      · split
        · exact nofun
        · split <;> exact nofun
    | maxAttempts => exact mapped (numbers _)
    | backoff => exact mapped (mapped (numbers _))
    | storagePath => exact nofun
    | logToFile =>
      rw [Part.read, truth]
      split
      · exact nofun
      · split <;> exact nofun
    | _ => exact mapped (numbers _)

/-- A change that was made is made again in vain. -/
theorem change_again (isOk : s.change key value = .ok t) : t.change key value = .ok t := by
  obtain ⟨p, v, key?, means, rfl⟩ := change_ok isOk
  rw [change_eq, key?]
  simp only [Part.read_put means]
  exact congrArg Except.ok (Part.put_put s p v)

theorem set_ok (isOk : s.set key value = .ok t) :
    s.change key value = .ok t ∧ t.network.validate = .ok () := by
  rw [set] at isOk
  split at isOk
  · cases isOk
  · rename_i u changed
    obtain ⟨rfl, valid⟩ := valid_of_check isOk
    exact ⟨changed, valid⟩

/-- A call is broken off exactly if it can be made and the check of what it makes is broken off. -/
theorem set_eq_brokenOff_iff :
    s.set key value = .error .brokenOff ↔
      ∃ changed, s.change key value = .ok changed ∧ changed.network.Overflows := by
  rw [set]
  cases made : s.change key value with
  | error e =>
    have isTold : Except.error e ≠ .error Failure.brokenOff :=
      made ▸ change_ne_brokenOff s key value
    exact ⟨fun broken => absurd broken isTold, fun ⟨_, isOk, _⟩ => nomatch isOk⟩
  | ok changed =>
    rw [check_eq_brokenOff_iff]
    exact ⟨fun overflows => ⟨changed, rfl, overflows⟩,
      fun ⟨_, same, overflows⟩ => Except.ok.inj same ▸ overflows⟩

/-- Settings after a call that changed them.  Only the part of the key differs, they are a valid
whole, and the same call again leaves them as they are. -/
structure Changed (s : Settings) (key value : String) (t : Settings) : Prop where
  part : ∃ p, Part.ofKey? key = some p ∧ ∀ q, q ≠ p → Part.get t q = Part.get s q
  valid : t.network.validate = .ok ()
  again : t.set key value = .ok t

theorem changed_of_set (isOk : s.set key value = .ok t) : Changed s key value t := by
  obtain ⟨changed, valid⟩ := set_ok isOk
  obtain ⟨p, v, key?, -, form⟩ := change_ok changed
  refine ⟨⟨p, key?, fun q ne => ?_⟩, valid, ?_⟩
  · rw [form, Part.get_put_of_ne ne]
  · rw [set, change_again changed]
    exact check_eq valid

/-! ### Any calls -/

/-- The settings in memory after a call: changed, or as they were if the call fails or is broken
off. -/
def keep (s : Settings) (call : String × String) : Settings :=
  match s.set call.1 call.2 with
  | .ok t => t
  | .error _ => s

/-- The settings in memory after some calls, each a key and a value. -/
def after (s : Settings) (calls : List (String × String)) : Settings := calls.foldl keep s

theorem validate_keep (valid : s.network.validate = .ok ()) (call : String × String) :
    (s.keep call).network.validate = .ok () := by
  rw [keep]
  split
  · rename_i t isOk
    exact (changed_of_set isOk).valid
  · exact valid

/-- Whatever was called, the settings in memory are a valid whole. -/
theorem validate_after (valid : s.network.validate = .ok ()) (calls : List (String × String)) :
    (s.after calls).network.validate = .ok () := by
  induction calls generalizing s with
  | nil => exact valid
  | cons call calls ih => exact ih (validate_keep valid call)

/-- **Settings never become unloadable.**  Settings that are a valid whole are loaded from their
file.  Whatever is called then, the file of the settings in memory is loaded as what is in memory,
and the next call either fails and leaves all as it was, or changes the part of its key only, to
settings that are again a valid whole and that the same call would not change any more.

A call that fails tells why, with one exception: the check of what it has made is broken off, which
happens exactly if there are a hop and a guard then and the sum of their sizes is no word. -/
theorem loadable_after_calls (valid : s.network.validate = .ok ()) :
    load s.file = .ok s ∧
      ∀ calls, load (s.after calls).file = .ok (s.after calls) ∧
        ∀ key value,
          ((∃ e, (s.after calls).set key value = .error e ∧
            s.after (calls ++ [(key, value)]) = s.after calls) ∨
          (∃ t, (s.after calls).set key value = .ok t ∧
            s.after (calls ++ [(key, value)]) = t ∧ Changed (s.after calls) key value t)) ∧
          ((s.after calls).set key value = .error .brokenOff ↔
            ∃ t, (s.after calls).change key value = .ok t ∧ t.network.Overflows) := by
  refine ⟨load_file valid, fun calls => ⟨load_file (validate_after valid calls), ?_⟩⟩
  intro key value
  refine ⟨?_, set_eq_brokenOff_iff⟩
  have next : s.after (calls ++ [(key, value)]) = (s.after calls).keep (key, value) := by
    rw [after, List.foldl_append]
    rfl
  rw [next, keep]
  cases called : (s.after calls).set key value with
  | error e => exact .inl ⟨e, rfl, rfl⟩
  | ok t => exact .inr ⟨t, rfl, rfl, changed_of_set called⟩

/-- Calls, some of which fail; the check of the last one is broken off. -/
def trialCalls : List (String × String) :=
  [("environment", "custom"), ("path_size", "0"), ("retry.delay_ms", "250"), ("colour", "red"),
    ("path_size", "18446744073709551615")]

theorem loadable_after_calls_trialCalls :
    standard.network.validate = .ok () ∧
      standard.after trialCalls =
        { standard with
          network := { NetworkConfig.standard with
            environment := .custom Environment.mainnetSeeds, retry := ⟨3, .fixed 250⟩ } } ∧
      load (standard.after trialCalls).file = .ok (standard.after trialCalls) ∧
      (standard.after trialCalls).set "path_size" "18446744073709551615" = .error .brokenOff := by
  have valid : standard.network.validate = .ok () := by decide
  obtain ⟨file, calls⟩ := (loadable_after_calls valid).2 trialCalls
  refine ⟨valid, by decide +kernel, file, (calls _ _).2.2 ?_⟩
  refine ⟨_, rfl, ?_, ?_, ?_⟩ <;> decide +kernel

end OnionSwarm.Cli.Settings

/-
A configuration of the client is read back from the file that it is saved to.

Each part of a configuration is a record or a choice between records, so each has the same two
facts: its text is legible, because all its numbers are words, and its reader finds it in the tree
of that text.  The reader of a choice also looks how deep it lies itself, and gives up too deep in
other arrays and objects; a configuration is read at the outside, or one object further in.
-/
import Mathlib.Tactic.Common
import OnionSwarm.Config.Network
import OnionSwarm.Proofs.Json.Records

namespace OnionSwarm

open Json (Record Choice written Legible KeptMembers deepest)
open Text.Decimal (last32 last64)

/-! ### Words -/

theorem fits_word (n : UInt64) : (Number.int n.toNat).Fits :=
  Json.fits_nat (Nat.le_of_lt_succ n.toNat_lt)

theorem fits_halfWord (n : UInt32) : (Number.int n.toNat).Fits :=
  Json.fits_nat (Nat.le_trans (Nat.le_of_lt_succ n.toNat_lt) (by decide))

theorem Backoff.readTime_written (n : UInt64) : readTime (written (.nat n.toNat)) = .ok n := by
  have small : n.toNat ≤ last64 := Nat.le_of_lt_succ n.toNat_lt
  rw [readTime, Json.asNat_written small]
  exact congrArg Except.ok UInt64.ofNat_toNat

theorem NetworkConfig.readWord_written (n : UInt64) : readWord (written (.nat n.toNat)) = .ok n :=
  Backoff.readTime_written n

theorem RetryPolicy.readAttempts_written (n : UInt32) :
    readAttempts (written (.nat n.toNat)) = .ok n := by
  have small : n.toNat ≤ last32 := Nat.le_of_lt_succ n.toNat_lt
  rw [readAttempts, Json.asNat_written small]
  exact congrArg Except.ok UInt32.ofNat_toNat

/-! ### Rules for trying again -/

namespace Backoff

theorem legible : ∀ b : Backoff, Legible b.toJson
  | .none => ⟨trivial, trivial⟩
  | .fixed delay => ⟨trivial, fits_word delay, trivial⟩
  | .uniform least most => ⟨trivial, fits_word least, fits_word most, trivial⟩

/-- A backoff is read back, however deep it lies, because it holds no arrays and objects itself. -/
theorem ofWritten_written (depth : Nat) (b : Backoff) :
    ofWritten depth (written b.toJson) = .ok b := by
  -- the kind is chosen by its name, and the other members are read as a record
  cases b with
  | none =>
    have chosen : choice.read depth (written (toJson .none)) = .ok (.none, written (.object [])) :=
      Choice.read_written rfl nofun trivial
    rw [ofWritten, chosen]
    rfl
  | fixed delay =>
    have chosen : choice.read depth (written (toJson (.fixed delay)))
        = .ok (.fixed, written (.object [("delay_ms", .nat delay.toNat)])) :=
      Choice.read_written rfl (by simp) ⟨fits_word delay, trivial⟩
    have holds : fixedRecord.Holds [("delay_ms", written (.nat delay.toNat))] (.fixed delay) :=
      (Record.holds_of Backoff.fixed).field (readTime_written delay)
    rw [ofWritten, chosen]
    exact Record.read_written holds (by simp) "a fixed backoff"
  | uniform least most =>
    have chosen : choice.read depth (written (toJson (.uniform least most)))
        = .ok (.uniform, written (.object [("min_ms", .nat least.toNat),
          ("max_ms", .nat most.toNat)])) :=
      Choice.read_written rfl (by simp) ⟨fits_word least, fits_word most, trivial⟩
    have holds : uniformRecord.Holds [("min_ms", written (.nat least.toNat)),
        ("max_ms", written (.nat most.toNat))] (.uniform least most) :=
      Record.holds_of Backoff.uniform |>.field (readTime_written least)
        |>.field (readTime_written most)
    rw [ofWritten, chosen]
    exact Record.read_written holds (by simp) "a uniform backoff"

end Backoff

namespace RetryPolicy

theorem legible (p : RetryPolicy) : Legible p.toJson :=
  ⟨fits_halfWord p.maxAttempts, Backoff.legible p.backoff, trivial⟩

theorem ofWritten_written (depth : Nat) (p : RetryPolicy) :
    ofWritten depth (written p.toJson) = .ok p := by
  have holds : (record depth).Holds [("max_attempts", written (.nat p.maxAttempts.toNat)),
      ("backoff", written p.backoff.toJson)] p :=
    Record.holds_of RetryPolicy.mk |>.field (readAttempts_written p.maxAttempts)
      |>.field (Backoff.ofWritten_written (depth + 1) p.backoff)
  exact Record.read_written holds (by simp) _

end RetryPolicy

/-! ### Environments -/

namespace Environment

theorem legible : ∀ e : Environment, Legible e.toJson
  | .mainnet => ⟨trivial, trivial⟩
  | .custom _ => ⟨trivial, Json.legibleItems_map fun _ _ => trivial, trivial⟩

/-- An environment is read back where there is room for its seeds: the object around them and the
array that they stand in. -/
theorem ofWritten_written {depth : Nat} (room : depth + 2 ≤ deepest) (e : Environment) :
    ofWritten depth (written e.toJson) = .ok e := by
  cases e with
  | mainnet =>
    have chosen : choice.read depth (written (toJson .mainnet))
        = .ok (.mainnet, written (.object [])) := Choice.read_written rfl nofun trivial
    rw [ofWritten, chosen]
    rfl
  | custom seeds =>
    have levels : deepest - depth - 1 = (deepest - depth - 2) + 1 := by omega
    have kept : KeptMembers (deepest - depth - 1) [("seeds", .array (seeds.map .text))] := by
      rw [levels]
      exact ⟨Json.keptItems_map fun _ _ => trivial, trivial⟩
    have chosen : choice.read depth (written (toJson (.custom seeds)))
        = .ok (.custom, written (.object [("seeds", .array (seeds.map .text))])) :=
      Choice.read_written rfl (by simp) kept
    have list : (written (.array (seeds.map .text))).asList Json.Written.asString = .ok seeds := by
      rw [written, Json.Written.asList, Json.mapM_writtenItems fun _ _ => rfl]
      rfl
    have holds : customRecord.Holds [("seeds", written (.array (seeds.map .text)))]
        (.custom seeds) := (Record.holds_of Environment.custom).field list
    rw [ofWritten, chosen]
    exact Record.read_written holds (by simp) "a custom environment"

end Environment

/-! ### Configurations -/

namespace NetworkConfig

theorem legible (c : NetworkConfig) : Legible c.toJson :=
  ⟨Environment.legible c.environment, fits_word c.pathSize, fits_word c.guardCount,
    fits_word c.minPoolSize, fits_word c.minSwarmSize, fits_word c.batchWindow,
    fits_word c.httpTimeout, fits_word c.clockInterval, RetryPolicy.legible c.retry, trivial⟩

theorem ofWritten_written {depth : Nat} (room : depth + 3 ≤ deepest) (c : NetworkConfig) :
    ofWritten depth (written c.toJson) = .ok c := by
  have environment : Environment.ofWritten (depth + 1) (written c.environment.toJson)
      = .ok c.environment := Environment.ofWritten_written (by omega) _
  have retry := RetryPolicy.ofWritten_written (depth + 1) c.retry
  have holds : (record depth).Holds [("environment", written c.environment.toJson),
      ("path_size", written (.nat c.pathSize.toNat)),
      ("guard_count", written (.nat c.guardCount.toNat)),
      ("min_pool_size", written (.nat c.minPoolSize.toNat)),
      ("min_swarm_size", written (.nat c.minSwarmSize.toNat)),
      ("batch_window_ms", written (.nat c.batchWindow.toNat)),
      ("http_timeout_secs", written (.nat c.httpTimeout.toNat)),
      ("clock_resync_interval_secs", written (.nat c.clockInterval.toNat)),
      ("retry", written c.retry.toJson)] c :=
    Record.holds_of NetworkConfig.mk |>.field environment
      |>.field (readWord_written c.pathSize) |>.field (readWord_written c.guardCount)
      |>.field (readWord_written c.minPoolSize) |>.field (readWord_written c.minSwarmSize)
      |>.field (readWord_written c.batchWindow) |>.field (readWord_written c.httpTimeout)
      |>.field (readWord_written c.clockInterval) |>.field retry
  exact Record.read_written holds (by simp) _

/-- A file is read as some settings, which are not checked yet. -/
def ReadsAs (file : Option Bytes) (c : NetworkConfig) : Prop :=
  ∃ contents, file.bind Text.Utf8.decode? = some contents ∧
    Json.Written.readAs (ofWritten 0) (Bytes.ofString contents) = .ok c

theorem readsAs_save (c : NetworkConfig) : ReadsAs (some (Bytes.ofString c.save)) c := by
  have read : ofWritten 0 (written c.toJson) = .ok c := ofWritten_written (by decide) c
  refine ⟨c.save, ?_, ?_⟩
  · rw [Option.bind_some, Text.Utf8.decode?_ofString]
  · simp only [save, Json.Written.readAs, Json.read_renderWide c.legible, Json.unlessStopped, read]

/-- Settings that are read from a file are loaded if they pass the check. -/
theorem load_of_readsAs {file : Option Bytes} {c : NetworkConfig} (reads : ReadsAs file c) :
    load file = c.validate >>= fun _ => .ok c := by
  obtain ⟨contents, text, isOk⟩ := reads
  simp only [load, text, parse, isOk]
  cases c.validate <;> rfl

/-- **A configuration that is valid is loaded from the file that it was saved to**, whatever seeds
and numbers it has. -/
theorem load_save {c : NetworkConfig} (valid : c.validate = .ok ()) :
    load (some (Bytes.ofString c.save)) = .ok c := by
  rw [load_of_readsAs c.readsAs_save, valid]
  rfl

end NetworkConfig
end OnionSwarm

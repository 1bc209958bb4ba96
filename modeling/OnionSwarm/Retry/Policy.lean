/-
How often a call is tried, and how long to wait between attempts.
-/
import OnionSwarm.Dice
import OnionSwarm.Json.Record

namespace OnionSwarm

/-- How long to wait before the next attempt, in milliseconds. -/
inductive Backoff where
  | none
  | fixed (delay : UInt64)
  /-- A random time from `least` to `most`, or exactly `least` if `most` is no more. -/
  | uniform (least most : UInt64)
  deriving DecidableEq, Repr

/-- The rules for trying again. -/
structure RetryPolicy where
  /-- Attempts in all, the first one included. -/
  maxAttempts : UInt32
  backoff : Backoff
  deriving DecidableEq, Repr

namespace Backoff

/-- The time to wait, in milliseconds. -/
def delay (b : Backoff) (d : Dice) : Nat × Dice :=
  match b with
  | .none => (0, d)
  | .fixed delay => (delay.toNat, d)
  | .uniform least most => d.between least.toNat most.toNat

/-- A time in milliseconds. -/
def readTime (w : Json.Written) : Except Json.ReadError UInt64 :=
  UInt64.ofNat <$> w.asNat Text.Decimal.last64 "a 64-bit number"

/-- The kinds of backoff. -/
inductive Kind where
  | none
  | fixed
  | uniform
  deriving DecidableEq, Repr

/-- How a kind of backoff is chosen. -/
def choice : Json.Choice Kind :=
  ⟨"a backoff", [("none", .none), ("fixed", .fixed), ("uniform", .uniform)]⟩

/-- How a fixed backoff is read. -/
def fixedRecord : Json.Record Backoff := fixed <$> .required "delay_ms" readTime

/-- How a uniform backoff is read. -/
def uniformRecord : Json.Record Backoff :=
  uniform <$> .required "min_ms" readTime <*> .required "max_ms" readTime

/-- Reads a backoff inside `depth` arrays and objects. -/
def ofWritten (depth : Nat) (w : Json.Written) : Except Json.ReadError Backoff := do
  match ← choice.read depth w with
  | (.none, own) =>
    Json.Choice.noFields own
    return .none
  | (.fixed, own) => fixedRecord.read "a fixed backoff" own
  | (.uniform, own) => uniformRecord.read "a uniform backoff" own

/-- The backoff as JSON. -/
def toJson : Backoff → Json
  | .none => .object [("kind", .text "none")]
  | .fixed delay => .object [("kind", .text "fixed"), ("delay_ms", .nat delay.toNat)]
  | .uniform least most => .object [("kind", .text "uniform"), ("min_ms", .nat least.toNat),
      ("max_ms", .nat most.toNat)]

end Backoff

namespace RetryPolicy

/-- Three attempts, about a third of a second apart. -/
def standard : RetryPolicy := ⟨3, .uniform 100 500⟩

/-- A single attempt. -/
def once : RetryPolicy := ⟨1, .none⟩

/-- The number of attempts. -/
def readAttempts (w : Json.Written) : Except Json.ReadError UInt32 :=
  UInt32.ofNat <$> w.asNat Text.Decimal.last32 "a 32-bit number"

/-- How a policy inside `depth` arrays and objects is read. -/
def record (depth : Nat) : Json.Record RetryPolicy :=
  mk <$> .required "max_attempts" readAttempts
    <*> .required "backoff" (Backoff.ofWritten (depth + 1))

/-- Reads a policy inside `depth` arrays and objects. -/
def ofWritten (depth : Nat) (w : Json.Written) : Except Json.ReadError RetryPolicy :=
  (record depth).read "a retry policy" w

/-- The policy as JSON. -/
def toJson (p : RetryPolicy) : Json :=
  .object [("max_attempts", .nat p.maxAttempts.toNat), ("backoff", p.backoff.toJson)]

end RetryPolicy
end OnionSwarm

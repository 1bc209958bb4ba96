/-
Reports on failures, as JSON: the name of their kind, their wording, and what else they hold.

A failure that only passes on another one is reported as that other one.
-/
import OnionSwarm.Client.Backup
import OnionSwarm.Client.ServerApi
import OnionSwarm.Onion.Build
import OnionSwarm.Report.Node

namespace OnionSwarm.Report

/-- A failure with its kind and its wording. -/
def failure (kind message : String) (more : List (String × Json)) : Json :=
  .ofMembers ([("error", .text kind), ("message", .text message)] ++ more)

/-- The kind of a directory failure. -/
def directoryKind : DirectoryFailure → String
  | .seedFailed _ => "SeedBootstrap"
  | .noSeeds => "NoSeeds"
  | .emptyPool => "EmptyPool"
  | .tooFewNodes _ _ => "InsufficientNodes"
  | .emptySwarm _ => "EmptySwarm"
  | .swarmTooSmall _ _ => "SwarmTooSmall"
  | .swarmFetchFailed _ => "SwarmFetch"
  | .badKey _ => "InvalidKey"

/-- The kind of a path failure. -/
def pathKind : PathFailure → String
  | .empty => "Empty"
  | .repeatedHop _ => "DuplicateHop"
  | .directory cause => directoryKind cause

/-- The kind of a cryptographic failure. -/
def cryptoKind : CryptoFailure → String
  | .encryption _ => "Encryption"
  | .decryption => "Decryption"
  | .truncated _ => "Truncated"
  | .badKey _ => "InvalidKey"

/-- The kind of a framing error. -/
def framingKind : Framing.FramingError → String
  | .truncated => "Truncated"
  | .badLength => "BadLength"
  | .missingMarker => "MissingMarker"
  | .trailingBytes => "TrailingBytes"
  | .badJson _ => "Json"

/-- The kind of a build failure. -/
def buildKind : BuildFailure → String
  | .crypto cause => cryptoKind cause
  | .key cause => directoryKind cause
  | .framing cause => framingKind cause
  | .destinationInPath _ => "DestinationInPath"

/-- The kind of an onion failure. -/
def onionKind : OnionFailure → String
  | .guardUnreachable _ _ => "GuardConnectionFailed"
  | .guardRefused _ _ => "GuardProtocolError"
  | .hopFailed _ _ _ => "IntermediateNodeFailed"
  | .destinationUnreachable _ => "DestinationUnreachable"
  | .destinationRefused _ => "DestinationError"
  | .clockSkew _ => "ClockOutOfSync"
  | .badReply _ => "InvalidResponse"
  | .other _ => "Unknown"

/-- A directory failure. -/
def directory (f : DirectoryFailure) : Json := failure (directoryKind f) f.message []

/-- A path failure. -/
def path (f : PathFailure) : Json := failure (pathKind f) f.message []

/-- A cryptographic failure. -/
def crypto (f : CryptoFailure) : Json := failure (cryptoKind f) f.message []

/-- A framing error. -/
def framing (f : Framing.FramingError) : Json := failure (framingKind f) f.message []

/-- A build failure. -/
def build (f : BuildFailure) : Json := failure (buildKind f) f.message []

/-- A decision. -/
def decision : Decision → Json
  | .retry => .text "Retry"
  | .fail => .text "Fail"

/-- A status. -/
def status (s : Status) : Json :=
  .ofMembers [("code", .nat s.code), ("message", text? s.message), ("body", bytes? s.body)]

/-- What an onion failure holds beside its wording. -/
def onionFields (f : OnionFailure) : List (String × Json) :=
  (f.status?.map fun s => ("status", status s)).toList ++
  match f with
  | .guardUnreachable g _ => [("guard", tag g)]
  | .guardRefused g _ => [("guard", tag g)]
  | .hopFailed g key _ => [("guard", tag g), ("failed_key", .text key)]
  | _ => []

/-- An onion failure. -/
def onion (f : OnionFailure) : Json := failure (onionKind f) f.message (onionFields f)

/-- The failure of a call: its cause, the decision attached to it, and its code. -/
def api (f : ApiFailure) : Json :=
  let more := [("decision", (f.attached?.map decision).getD .null), ("code", nat? f.code?)]
  let kind : String × List (String × Json) :=
    match f.cause with
    | .onion cause => (onionKind cause, onionFields cause)
    | .path cause => (pathKind cause, [])
    | .directory cause => (directoryKind cause, [])
    | .unhandled _ body => ("UnhandledStatus", [("body", text? body)])
    | .malformed _ => ("Malformed", [])
    | .batch _ => ("Batch", [])
    | .decided _ _ => ("", [])
  failure kind.1 f.message (kind.2 ++ more)

/-- The outcome of a call that answers with a value. -/
def outcome : Except ApiFailure Json → Json
  | .ok v => .ofMembers [("ok", written v)]
  | .error f => api f

/-- The outcome of a round of storing objects. -/
def round : Except Backup.BackupFailure RoundReport → Json
  | .ok r => .ofMembers [("pushed", .nat r.pushed), ("failed", .nat r.failed)]
  | .error f =>
    failure (match f with
      | .noTarget _ => "Directory"
      | .notSent _ => "Api"
      | .noRevision _ _ => "Config"
      | .rejected _ _ => "Rejected") f.message []

end OnionSwarm.Report

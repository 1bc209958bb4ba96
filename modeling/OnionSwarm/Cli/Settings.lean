/-
The settings of the command: those of the client, and where it keeps its files.

A setting is changed by its name and a text.  The change is made on a copy, which is kept only if it
is a valid whole, so that the settings on file can always be read again.
-/
import OnionSwarm.Config.Network
import OnionSwarm.Store.Location
import OnionSwarm.Text.Blank

namespace OnionSwarm.Cli

/-- Why a command fails. -/
inductive Failure where
  /-- It tells what it was about to do, and then the reasons. -/
  | told (reasons : List String)
  /-- The check of the settings was broken off, and the command with it. -/
  | brokenOff
  deriving DecidableEq, Repr

/-- The settings. -/
structure Settings where
  network : NetworkConfig
  /-- The directory of the storage, if it is not the usual one. -/
  storagePath : Option String
  logToFile : Bool
  deriving DecidableEq, Repr

namespace Settings

/-- The settings that hold when nothing was set. -/
def standard : Settings := ⟨.standard, none, false⟩

/-- The directory of the storage. -/
def storageDir (s : Settings) (usual : String) : String := s.storagePath.getD usual

/-! ### Files -/

/-- How settings are read; what is left out is as in `standard`. -/
def record : Json.Record Settings :=
  mk <$> .optional "network" standard.network (NetworkConfig.ofWritten 1)
    <*> .optional "storage_path" standard.storagePath Json.Written.asString?
    <*> .optional "log_to_file" standard.logToFile Json.Written.asBool

/-- The settings as JSON. -/
def toJson (s : Settings) : Json :=
  .object [("network", s.network.toJson),
    ("storage_path", (s.storagePath.map .text).getD .null),
    ("log_to_file", .bool s.logToFile)]

/-- The text of a file of settings. -/
def save (s : Settings) : String := s.toJson.renderWide

/-- Settings that are a valid whole. -/
def check (s : Settings) : Except Failure Settings :=
  match s.network.validate with
  | .ok () => .ok s
  | .error .overflow => .error .brokenOff
  | .error e => .error (.told ["Invalid network config", e.message])

/-- Reads and checks a file of settings. -/
def parse (file : Bytes) : Except Failure Settings :=
  match Text.Utf8.decode? file with
  | none => .error (.told ["Failed to read config file", "stream did not contain valid UTF-8"])
  | some contents =>
    let bytes := Bytes.ofString contents
    match Json.Written.readAs (record.read "settings") bytes with
    | .error e => .error (.told ["Failed to parse config file", e.message bytes])
    | .ok s => s.check

/-- The settings on file; where there is no file, the standard ones. -/
def load : FileContents → Except Failure Settings
  | .error e => .error (.told ["Failed to read config file", e.message])
  | .ok none => .ok standard
  | .ok (some file) => parse file

/-! ### Changing a setting -/

/-- A number given as text. -/
def number (last : Nat) (value : String) : Except Failure Nat :=
  match Text.Decimal.parse last value with
  | .ok n => .ok n
  | .error e => .error (.told ["Invalid number", e.message])

/-- A 64-bit number given as text. -/
def word (value : String) : Except Failure UInt64 :=
  UInt64.ofNat <$> number Text.Decimal.last64 value

/-- A truth value given as text. -/
def truth (value : String) : Except Failure Bool :=
  if value = "true" then .ok true
  else if value = "false" then .ok false
  else .error (.told ["Invalid boolean value", "provided string was not `true` or `false`"])

/-- Seeds given as text, separated by commas. -/
def seedList (value : String) : List String :=
  ((value.splitOn ",").map Text.trim).filter fun s => !s.isEmpty

/-- The environment of some name; a custom one begins with the seeds that are in use. -/
def environment (now : Environment) (value : String) : Except Failure Environment :=
  if value = "mainnet" then .ok .mainnet
  else if value = "custom" then .ok (.custom now.seeds)
  else .error (.told ["Unknown environment: " ++ value ++ " (mainnet|custom)"])

/-- The backoff of a fixed delay. -/
def backoff (delay : UInt64) : Backoff := if delay = 0 then .none else .fixed delay

/-- The settings with one of them changed, valid or not. -/
def change (s : Settings) (key value : String) : Except Failure Settings := do
  let n := s.network
  match key with
  | "environment" =>
    return { s with network := { n with environment := ← environment n.environment value } }
  | "seeds" => return { s with network := { n with environment := .custom (seedList value) } }
  | "path_size" => return { s with network := { n with pathSize := ← word value } }
  | "guard_count" => return { s with network := { n with guardCount := ← word value } }
  | "min_pool_size" => return { s with network := { n with minPoolSize := ← word value } }
  | "min_swarm_size" => return { s with network := { n with minSwarmSize := ← word value } }
  | "batch_window_ms" => return { s with network := { n with batchWindow := ← word value } }
  | "http_timeout_secs" => return { s with network := { n with httpTimeout := ← word value } }
  | "clock_resync_interval_secs" =>
    return { s with network := { n with clockInterval := ← word value } }
  | "retry.max_attempts" =>
    let attempts ← number Text.Decimal.last32 value
    return { s with network :=
      { n with retry := { n.retry with maxAttempts := UInt32.ofNat attempts } } }
  | "retry.delay_ms" =>
    let delay ← word value
    return { s with network := { n with retry := { n.retry with backoff := backoff delay } } }
  | "storage_path" =>
    return { s with storagePath := if value.isEmpty then none else some value }
  | "log_to_file" => return { s with logToFile := ← truth value }
  | _ => throw (.told ["Unknown config key: " ++ key])

/-- Changes a setting, if the settings are then a valid whole. -/
def set (s : Settings) (key value : String) : Except Failure Settings :=
  match s.change key value with
  | .error e => .error e
  | .ok changed => changed.check

/-! ### Listing -/

/-- The name of an environment. -/
def environmentName : Environment → String
  | .mainnet => "mainnet"
  | .custom _ => "custom"

/-- A backoff in words. -/
def backoffText : Backoff → String
  | .none => "none"
  | .fixed delay => "fixed " ++ toString delay ++ "ms"
  | .uniform least most => "uniform " ++ toString least ++ "-" ++ toString most ++ "ms"

/-- All settings with their values. -/
def list (s : Settings) : List (String × String) :=
  let n := s.network
  [("environment", environmentName n.environment),
   ("seeds", ",".intercalate n.environment.seeds),
   ("path_size", toString n.pathSize),
   ("guard_count", toString n.guardCount),
   ("min_pool_size", toString n.minPoolSize),
   ("min_swarm_size", toString n.minSwarmSize),
   ("batch_window_ms", toString n.batchWindow),
   ("http_timeout_secs", toString n.httpTimeout),
   ("clock_resync_interval_secs", toString n.clockInterval),
   ("retry.max_attempts", toString n.retry.maxAttempts),
   ("retry.backoff", backoffText n.retry.backoff),
   ("storage_path", s.storagePath.getD ""),
   ("log_to_file", toString s.logToFile)]

end Settings
end OnionSwarm.Cli

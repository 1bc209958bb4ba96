/-
The settings of the client.

A configuration is read from JSON, where every setting may be left out, and is then checked: a value
that reads well may still describe a network that no path can be built in.  The check adds two sizes
that may be any 64-bit words, and it does not survive a sum that is none.
-/
import OnionSwarm.Json.Render
import OnionSwarm.Node.Entry
import OnionSwarm.Retry.Policy

namespace OnionSwarm

/-- The network that the client belongs to. -/
inductive Environment where
  | mainnet
  /-- A network of one's own, entered through the given seeds. -/
  | custom (seeds : List String)
  deriving DecidableEq, Repr

/-- The settings of the client. -/
structure NetworkConfig where
  environment : Environment
  /-- Hops of a path, the guard included. -/
  pathSize : UInt64
  /-- Guards kept for new paths. -/
  guardCount : UInt64
  /-- The pool size below which a seed is asked again. -/
  minPoolSize : UInt64
  /-- The smallest swarm that is accepted. -/
  minSwarmSize : UInt64
  /-- How long calls are gathered into a batch, in milliseconds. -/
  batchWindow : UInt64
  /-- The limit of one HTTP request, in seconds. -/
  httpTimeout : UInt64
  /-- The least time between two samples of the network time, in seconds. -/
  clockInterval : UInt64
  retry : RetryPolicy
  deriving DecidableEq, Repr

/-- Why a configuration is not accepted. -/
inductive ConfigFailure where
  | invalid (field reason : String)
  /-- The file cannot be read. -/
  | unreadable
  /-- The file is no configuration. -/
  | unparsable (reason : String)
  /-- The sum of path and guards is no 64-bit word.  This is no answer of the check, which is broken
  off there, and with it whatever asked for it. -/
  | overflow
  deriving DecidableEq, Repr

/-- The wording of a failure. -/
def ConfigFailure.message : ConfigFailure → String
  | .invalid field reason => "Invalid value for " ++ field ++ ": " ++ reason
  | .unreadable => "Failed to read config"
  | .unparsable reason => "Failed to parse config: " ++ reason
  | .overflow => "attempt to add with overflow"

namespace Environment

/-- The seeds of the main network. -/
def mainnetSeeds : List String :=
  ["https://seed1.getsession.org:4443/json_rpc",
   "https://seed2.getsession.org:4443/json_rpc",
   "https://seed3.getsession.org:4443/json_rpc"]

/-- The seeds of the network. -/
def seeds : Environment → List String
  | .mainnet => mainnetSeeds
  | .custom seeds => seeds

/-- The kinds of environment. -/
inductive Kind where
  | mainnet
  | custom
  deriving DecidableEq, Repr

/-- How a kind of environment is chosen. -/
def choice : Json.Choice Kind :=
  ⟨"a network environment", [("mainnet", .mainnet), ("custom", .custom)]⟩

/-- How a custom environment is read. -/
def customRecord : Json.Record Environment :=
  custom <$> .required "seeds" (Json.Written.asList Json.Written.asString)

/-- Reads an environment inside `depth` arrays and objects. -/
def ofWritten (depth : Nat) (w : Json.Written) : Except Json.ReadError Environment := do
  match ← choice.read depth w with
  | (.mainnet, own) =>
    Json.Choice.noFields own
    return .mainnet
  | (.custom, own) => customRecord.read "a custom environment" own

/-- The environment as JSON. -/
def toJson : Environment → Json
  | .mainnet => .object [("kind", .text "mainnet")]
  | .custom seeds => .object [("kind", .text "custom"), ("seeds", .array (seeds.map .text))]

end Environment

namespace NetworkConfig

/-- The settings for the main network. -/
def standard : NetworkConfig :=
  { environment := .mainnet
    pathSize := 3
    guardCount := 2
    minPoolSize := 12
    minSwarmSize := 3
    batchWindow := 100
    httpTimeout := 30
    clockInterval := 600
    retry := .standard }

/-- The check of the environment: a custom one needs seeds, and each must be an HTTP URL. -/
def checkSeeds : Environment → Except ConfigFailure Unit
  | .mainnet => .ok ()
  | .custom [] => .error (.invalid "environment.seeds" "custom environment needs seeds")
  | .custom seeds =>
    match seeds.find? (fun s => !Node.hasScheme s) with
    | some seed => .error (.invalid "environment.seeds" ("not an http(s) url: " ++ seed))
    | none => .ok ()

/-- Checks the settings in a fixed order and reports the first that is wrong.  The sum of path and
guards is computed in 64 bits, and overflow is checked. -/
def validate (c : NetworkConfig) : Except ConfigFailure Unit :=
  if c.pathSize = 0 then .error (.invalid "path_size" "must be at least 1")
  else if c.guardCount = 0 then .error (.invalid "guard_count" "must be at least 1")
  else if UInt64.size ≤ c.pathSize.toNat + c.guardCount.toNat then .error .overflow
  else if c.minPoolSize < c.pathSize + c.guardCount then
    .error (.invalid "min_pool_size" "must hold a full path plus the guard set")
  else if c.minSwarmSize = 0 then .error (.invalid "min_swarm_size" "must be at least 1")
  else if c.httpTimeout = 0 then .error (.invalid "http_timeout_secs" "must be positive")
  else if c.retry.maxAttempts = 0 then
    .error (.invalid "retry.max_attempts" "must be at least 1")
  else checkSeeds c.environment

/-- A 64-bit setting. -/
def readWord (w : Json.Written) : Except Json.ReadError UInt64 :=
  UInt64.ofNat <$> w.asNat Text.Decimal.last64 "a 64-bit number"

/-- How settings inside `depth` arrays and objects are read; what is left out is as in
`standard`. -/
def record (depth : Nat) : Json.Record NetworkConfig :=
  mk <$> .optional "environment" standard.environment (Environment.ofWritten (depth + 1))
    <*> .optional "path_size" standard.pathSize readWord
    <*> .optional "guard_count" standard.guardCount readWord
    <*> .optional "min_pool_size" standard.minPoolSize readWord
    <*> .optional "min_swarm_size" standard.minSwarmSize readWord
    <*> .optional "batch_window_ms" standard.batchWindow readWord
    <*> .optional "http_timeout_secs" standard.httpTimeout readWord
    <*> .optional "clock_resync_interval_secs" standard.clockInterval readWord
    <*> .optional "retry" standard.retry (RetryPolicy.ofWritten (depth + 1))

/-- Reads settings inside `depth` arrays and objects. -/
def ofWritten (depth : Nat) (w : Json.Written) : Except Json.ReadError NetworkConfig :=
  (record depth).read "network settings" w

/-- The settings as JSON. -/
def toJson (c : NetworkConfig) : Json :=
  .object [("environment", c.environment.toJson),
    ("path_size", .nat c.pathSize.toNat),
    ("guard_count", .nat c.guardCount.toNat),
    ("min_pool_size", .nat c.minPoolSize.toNat),
    ("min_swarm_size", .nat c.minSwarmSize.toNat),
    ("batch_window_ms", .nat c.batchWindow.toNat),
    ("http_timeout_secs", .nat c.httpTimeout.toNat),
    ("clock_resync_interval_secs", .nat c.clockInterval.toNat),
    ("retry", c.retry.toJson)]

/-- The text of a configuration file. -/
def save (c : NetworkConfig) : String := c.toJson.renderWide

/-- Reads and checks the text of a configuration file. -/
def parse (contents : String) : Except ConfigFailure NetworkConfig :=
  let bytes := Bytes.ofString contents
  match Json.Written.readAs (ofWritten 0) bytes with
  | .error e => .error (.unparsable (e.message bytes))
  | .ok config =>
    match config.validate with
    | .ok () => .ok config
    | .error e => .error e

/-- Reads and checks a configuration file, which may not be there. -/
def load (file : Option Bytes) : Except ConfigFailure NetworkConfig :=
  match file.bind Text.Utf8.decode? with
  | none => .error .unreadable
  | some contents => parse contents

end NetworkConfig
end OnionSwarm

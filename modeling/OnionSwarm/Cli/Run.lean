/-
What the command does.

The settings are read first, and written if there were none.  Then either all is done with the
settings alone, or the client is started on its storage and does one thing.
-/
import OnionSwarm.Cli.Arguments
import OnionSwarm.Cli.Print
import OnionSwarm.Client.Network
import OnionSwarm.Store.Layout

namespace OnionSwarm.Cli

/-- The version of the command. -/
def versionText : String := "swarmnet 0.3.0\n"

/-- How a command ends. -/
structure Outcome where
  exit : UInt8
  out : String
  /-- What it tells if it fails. -/
  failure : Option (List String)
  deriving DecidableEq, Repr

namespace Outcome

/-- The command did what it was to do. -/
def success (out : String) : Outcome := ⟨0, out, none⟩

/-- The command failed.  A command that is broken off tells no reasons. -/
def failed : Failure → Outcome
  | .told reasons => ⟨1, "", some reasons⟩
  | .brokenOff => ⟨101, "", none⟩

/-- The command was not understood. -/
def misused : Outcome := ⟨2, "", none⟩

end Outcome

/-- What the client is to do. -/
inductive Task where
  | poolRefresh
  | poolList
  | swarm (account : String)
  | path
  | call (call : SwarmCall)
  | clock
  deriving Repr

/-- What is left to be done once the settings are known. -/
inductive Rest where
  | done (outcome : Outcome)
  | onStorage (settings : Settings) (task : Task)

/-- What is to be done. -/
structure Prepared where
  /-- What the file of settings is to hold, if it changes. -/
  newFile : Option String
  /-- Are logs to be kept? -/
  keepsLogs : Bool
  rest : Rest

/-- The parameters of a call. -/
def params : Option String → Except Failure Json
  | none => .ok (.object [])
  | some given =>
    let bytes := Bytes.ofString given
    match Json.parse bytes with
    | .error e => .error (.told ["Params must be a JSON object", e.message bytes])
    | .ok v => if v.isObject then .ok v else .error (.told ["Params must be a JSON object"])

/-- The confirmation of something that is done. -/
def confirmed (what : String) : String := Print.line ("✓ " ++ what)

/-- What a command leads to with the given settings; the first part is what the file of settings is
to hold then. -/
def dispatch (s : Settings) : Command → Option String × Rest
  | .poolRefresh => (none, .onStorage s .poolRefresh)
  | .poolList => (none, .onStorage s .poolList)
  | .swarm account => (none, .onStorage s (.swarm account))
  | .path => (none, .onStorage s .path)
  | .call account method given =>
    match params given with
    | .error e => (none, .done (.failed e))
    | .ok v => (none, .onStorage s (.call ⟨account, ⟨method, v⟩, none⟩))
  | .configShow => (none, .done (.success (Print.settings s)))
  | .configSet key value =>
    match s.set key value with
    | .error e => (none, .done (.failed e))
    | .ok changed =>
      (some changed.save, .done (.success (confirmed ("Set " ++ key ++ " = " ++ value))))
  | .configReset =>
    (some Settings.standard.save, .done (.success (confirmed "Configuration reset to defaults")))
  | .clock => (none, .onStorage s .clock)

/-- All is done, and nothing changes. -/
def Prepared.only (outcome : Outcome) : Prepared := ⟨none, false, .done outcome⟩

/-- What some arguments lead to with a file of settings, which may not be there. -/
def prepare (args : List String) (file : FileContents) : Prepared :=
  match Arguments.read args with
  | .usage => .only .misused
  | .help page => .only (.success page.text)
  | .version => .only (.success versionText)
  | .run _ command =>
    match Settings.load file with
    | .error e => .only (.failed e)
    | .ok s =>
      let (newFile, rest) := dispatch s command
      let first := if file matches .ok none then some s.save else none
      ⟨newFile.or first, s.logToFile, rest⟩

/-- The name of the directory for logs. -/
def logsName : String := "logs"

/-- What cannot be opened. -/
def openFailure (dir reason : String) : Failure :=
  .told ["Failed to open snode store at " ++ dir, reason]

/-! ### Tasks -/

variable {ω : Type}

/-- What came of a task. -/
def concluded {ε α : Type} (context : String) (message : ε → String) (shown : α → String) :
    Except ε α → Outcome
  | .ok a => .success (shown a)
  | .error e => .failed (.told [context, message e])

/-- Finds the time of the network and how far the system's time is off. -/
def clock (n : Network ω) : Act ω Outcome := do
  if ← n.resync then
    let offset := (← ClockSource.offset n.timer).getD 0
    let time ← n.now
    return .success (confirmed ("Network time: " ++ toString time ++ " ms") ++
      Print.line ("  Offset from system clock: " ++ toString offset ++ " ms"))
  else return .failed (.told ["No snode answered the time query"])

/-- Does a task. -/
def perform (n : Network ω) : Task → Work ω Outcome
  | .poolRefresh => do
    return concluded "Seed bootstrap failed" DirectoryFailure.message
      (fun (pool : List Node) =>
        confirmed ("Pool refreshed: " ++ toString pool.length ++ " snodes")) (← n.refreshPool)
  | .poolList => do return .success (Print.pool (← .ofAction Act.pool))
  | .swarm account => do
    return concluded ("Failed to get swarm for " ++ account) DirectoryFailure.message
      (Print.swarm account) (← n.findSwarm account)
  | .path => do
    return concluded "Failed to build onion path" PathFailure.message Print.path (← n.buildPath)
  | .call c => do
    return concluded (c.call.method ++ " failed") ApiFailure.message
      (fun v => Print.line v.renderWide) (← n.sendToSwarm c)
  | .clock => .ofAction (clock n)

/-- Starts the client on a directory of storage and does a task. -/
def onStorage {m : Type → Type} [Monad m] (n : Network ω) (dice : Dice) (world : ω) (dir : String)
    (task : Task) (storage : Layout.Access m) : m Outcome := do
  match ← storage.openAll with
  | .error e => return .failed (openFailure dir e.message)
  | .ok disk =>
    let (outcome, c) := n.await (perform n task) (Client.start disk dice world)
    storage.writeCells c.store.disk
    return outcome

/-- The client without any way to the network. -/
def offline (config : NetworkConfig) (chance : Nat → LayerCipher.Chance) : Network Unit :=
  let post : HttpPost Unit := fun _ _ => pure (.error ⟨"network is unreachable"⟩)
  { config, seedPost := post, onionPost := post
    cipher := LayerCipher.standard chance
    timer := ⟨pure 0, pure 0, fun _ => pure ()⟩ }

end OnionSwarm.Cli

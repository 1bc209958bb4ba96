/-
The command on real files.

Settings are in the directory for settings of the user, storage is in the one for data, each in a
directory of its own.  The cells of the storage are kept in one file, as hexadecimal texts.  There
is no way to the network: what needs one fails as it does when a computer is offline.
-/
import OnionSwarm.Cli.Run
import OnionSwarm.Crypto.Chance
import OnionSwarm.Json.Access

namespace OnionSwarm.Cli

/-- The name of the directories. -/
def ownName : String := "swarmnet"

/-- The directory that a variable names, or else one in the home directory. -/
def userDir (name fallback : String) : IO String := do
  match ← IO.getEnv name with
  | some dir => if dir.startsWith "/" then return dir ++ "/" ++ ownName else ofHome
  | none => ofHome
where
  ofHome : IO String := do
    return (← IO.getEnv "HOME").getD "" ++ "/" ++ fallback ++ "/" ++ ownName

/-- Writes a file. -/
def writeFile (file : String) (bytes : Bytes) : IO Unit :=
  IO.FS.writeBinFile file (ByteArray.mk bytes.toArray)

/-- Cells as JSON. -/
def cellsJson (d : Disk) : Json :=
  .ofMembers (d.cells.entries.map fun c => (Text.Hex.encode c.1, .text (Text.Hex.encode c.2)))

/-- Cells from JSON; what is none is left out. -/
def cellsOf (v : Json) : Disk :=
  let cell (m : String × Json) : Option (Bytes × Bytes) := do
    let key ← (Text.Hex.decode m.1).toOption
    let value ← (Text.Hex.decode (← m.2.asText?)).toOption
    return (key, value)
  { Disk.empty with cells := .ofList (v.members.filterMap cell) }

/-- Why something failed. -/
def causeOf : IO.Error → FileFailure
  | .noFileOrDirectory _ _ _ => .missing
  | .alreadyExists _ _ _ => .taken
  | .inappropriateType _ code _ => if code = 21 then .isDirectory else .notDirectory
  | .invalidArgument _ 36 _ => .nameTooLong
  | e => .other (toString e)

/-- What is in a file. -/
def readFile (file : String) : IO FileContents := do
  try
    return .ok (some (← IO.FS.readBinFile file).toList)
  catch e =>
    match causeOf e with
    | .missing => return .ok none
    | cause => return .error cause

/-- How directories are made. -/
def maker : Location.Maker IO where
  make l := do
    try
      IO.FS.createDir l.text
      return none
    catch e => return some (causeOf e)
  isDirectory l := do
    try
      let _ ← IO.FS.readBinFile l.text
      return false
    catch e => return causeOf e = .isDirectory

/-- How a directory of storage is used. -/
def access (dir : String) : Layout.Access IO :=
  let l := Location.ofText dir
  let versionFile := (l.child Layout.fileName).text
  let cells := l.child "snodes"
  let cellsFile := (cells.child "cells.json").text
  { prepare := maker.prepare l
    readVersion := readFile versionFile
    writeVersion := writeFile versionFile
    prepareCells := maker.prepare cells
    readCells := do
      match ← readFile cellsFile with
      | .ok (some bytes) => return cellsOf ((Json.parse bytes).toOption.getD .null)
      | _ => return .empty
    writeCells := fun d => writeFile cellsFile (cellsJson d).toBytes }

/-- Does what is left once the settings are known. -/
def conclude (dataDir : String) : Rest → IO Outcome
  | .done outcome => return outcome
  | .onStorage settings task => do
    let dir := settings.storageDir (dataDir ++ "/store")
    let dice := Dice.ofSeed (← IO.monoNanosNow)
    let seed ← IO.getRandomBytes 32
    let network := offline settings.network (.ofSeed seed.toList)
    onStorage network dice () dir task (access dir)

/-- Runs the command. -/
def command (args : List String) : IO Outcome := do
  let dir ← userDir "XDG_CONFIG_HOME" ".config"
  let dataDir ← userDir "XDG_DATA_HOME" ".local/share"
  let file := dir ++ "/config.json"
  let prepared := prepare args (← readFile file)
  match prepared.newFile with
  | some text =>
    IO.FS.createDirAll dir
    writeFile file (Bytes.ofString text)
  | none => pure ()
  if prepared.keepsLogs then IO.FS.createDirAll (dataDir ++ "/" ++ logsName)
  conclude dataDir prepared.rest

end OnionSwarm.Cli

/-- The command `swarmnet`. -/
def main (args : List String) : IO UInt32 := do
  let outcome ← OnionSwarm.Cli.command args
  IO.print outcome.out
  match outcome.failure with
  | some failure => IO.eprintln (OnionSwarm.Cli.Print.failure failure)
  | none => pure ()
  return outcome.exit.toUInt32

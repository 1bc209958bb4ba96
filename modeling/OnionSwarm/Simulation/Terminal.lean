/-
The command, run on files that are only imagined.

The settings and the usual storage are in directories of their own under one directory, which is
there from the beginning.
-/
import OnionSwarm.Cli.Run
import OnionSwarm.Crypto.Chance
import OnionSwarm.Simulation.FileTree

namespace OnionSwarm.Simulation

open Cli

/-- All files. -/
structure Terminal where
  files : FileTree

namespace Terminal

/-- The directory under which everything is. -/
def scratch : String := "<TMP>"

/-- The directory of the file of settings. -/
def settingsDir : Location := .ofText (scratch ++ "/conf/swarmnet")

/-- The name of the file of settings. -/
def settingsName : String := "config.json"

/-- The directory of everything else. -/
def dataDir : Location := .ofText (scratch ++ "/data/swarmnet")

/-- The directory of the storage if none is set. -/
def usualDir : String := (dataDir.child "store").text

/-- Makes a directory; nothing happens if that fails. -/
def prepared (t : Terminal) (l : Location) : Terminal := ⟨(FileTree.maker.prepare l t.files).2⟩

/-- The file of settings. -/
def settings (t : Terminal) : FileContents := t.files.read (settingsDir.child settingsName)

/-- Writes the file of settings. -/
def putSettings (t : Terminal) (contents : Bytes) : Terminal :=
  ⟨(t.prepared settingsDir).files.put settingsDir settingsName (.file contents)⟩

/-- Nothing but a file of settings, if there is one. -/
def start (settings : Option Bytes) : Terminal :=
  let t := (Terminal.mk .empty).prepared (.ofText scratch)
  (settings.map t.putSettings).getD t

/-- Where the cells of a directory of storage are kept. -/
def cellsAt (l : Location) : Location := l.child "snodes"

/-- Keeps cells in a directory of storage. -/
def keep (t : Terminal) (dir : String) (d : Disk) : Terminal :=
  let l := cellsAt (.ofText dir)
  ⟨(FileTree.prepareCells l t.files).2.putCells l d⟩

/-- How a directory of storage is used here. -/
def access (dir : String) : Layout.Access (StateM FileTree) :=
  let l := Location.ofText dir
  { prepare := FileTree.maker.prepare l
    readVersion := fun t => (t.read (l.child Layout.fileName), t)
    writeVersion := fun contents t => ((), t.put l Layout.fileName (.file contents))
    prepareCells := FileTree.prepareCells (cellsAt l)
    readCells := fun t => (t.cells (cellsAt l), t)
    writeCells := fun d t => ((), t.putCells (cellsAt l) d) }

/-- Runs the command, which has no way to the network. -/
def run (dice : Dice) (args : List String) : StateM Terminal Outcome := fun t =>
  let p := prepare args t.settings
  let t := (p.newFile.map fun text => t.putSettings (Bytes.ofString text)).getD t
  let t := if p.keepsLogs then t.prepared (dataDir.child logsName) else t
  match p.rest with
  | .done outcome => (outcome, t)
  | .onStorage settings task =>
    let t := if settings.storagePath.isNone then t.prepared dataDir else t
    let dir := settings.storageDir usualDir
    let network := offline settings.network (.ofSeed [])
    let (outcome, files) := onStorage network dice () dir task (access dir) t.files
    (outcome, ⟨files⟩)

end Terminal
end OnionSwarm.Simulation

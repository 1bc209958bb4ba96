/-
The version of the storage on disk.

A directory of storage says in a file by which layout it was written.  A newer one is not touched,
because nothing is known about it; where there is none yet, and after an older one, the present one
is written.  The cells come last: they are not looked for in a directory of unknown layout.
-/
import OnionSwarm.Store.Disk
import OnionSwarm.Store.Location
import OnionSwarm.Text.Blank
import OnionSwarm.Text.Decimal
import OnionSwarm.Text.Utf8

namespace OnionSwarm.Layout

/-- The present layout. -/
def present : Nat := 1

/-- The name of the file. -/
def fileName : String := "SCHEMA_VERSION"

/-- Why storage is not opened. -/
inductive LayoutFailure where
  /-- The directory or the file of the version cannot be had. -/
  | unavailable (cause : FileFailure)
  /-- The cells cannot be had. -/
  | noCells (cause : FileFailure)
  | unreadable
  | badVersion (cause : Text.Decimal.DecimalError)
  | newer (version : Nat)
  deriving DecidableEq, Repr

/-- The failure in words. -/
def LayoutFailure.message : LayoutFailure → String
  | .unavailable cause => "Storage error: " ++ cause.message
  | .noCells cause => "Storage error: IO error: " ++ cause.message
  | .unreadable => "Storage error: stream did not contain valid UTF-8"
  | .badVersion cause => "Storage error: bad schema version: " ++ cause.message
  | .newer version =>
    "Storage error: store schema " ++ toString version ++ " is newer than supported " ++
      toString present

/-- The version in a file; zero where there is none. -/
def version : Option Bytes → Except LayoutFailure Nat
  | none => .ok 0
  | some bytes =>
    match Text.Utf8.decode? bytes with
    | none => .error .unreadable
    | some contents =>
      match Text.Decimal.parse Text.Decimal.last32 (Text.trim contents) with
      | .error cause => .error (.badVersion cause)
      | .ok n => .ok n

/-- Opens storage, and says what is in the file then. -/
def openWith (file : Option Bytes) : Except LayoutFailure Bytes :=
  match version file with
  | .error e => .error e
  | .ok n =>
    if present < n then .error (.newer n)
    else if n = present then .ok (file.getD [])
    else .ok (Text.Decimal.encode present)

/-- How a directory of storage is used somewhere. -/
structure Access (m : Type → Type) where
  /-- Makes the directory, if it is not there. -/
  prepare : m (Option FileFailure)
  /-- What is in the file of the version, if it is there. -/
  readVersion : m FileContents
  writeVersion : Bytes → m Unit
  /-- Makes what the cells are kept in, if it is not there. -/
  prepareCells : m (Option FileFailure)
  readCells : m Disk
  writeCells : Disk → m Unit

/-- Opens a directory of storage, and finds its cells. -/
def Access.openAll {m : Type → Type} [Monad m] (a : Access m) : m (Except LayoutFailure Disk) := do
  match ← a.prepare with
  | some e => return .error (.unavailable e)
  | none =>
    match ← a.readVersion with
    | .error e => return .error (.unavailable e)
    | .ok file =>
      match openWith file with
      | .error e => return .error e
      | .ok version =>
        a.writeVersion version
        match ← a.prepareCells with
        | some e => return .error (.noCells e)
        | none => return .ok (← a.readCells)

end OnionSwarm.Layout

/-
Storage: cells of bytes that outlive the client.

Every operation may fail.  Which ones do is part of the storage's state, so that a run may go on
with any of them failing from any point on.
-/
import OnionSwarm.Table
import OnionSwarm.Text.Bytes

namespace OnionSwarm

/-- Which operations fail at present. -/
structure Faults where
  put : Bool
  get : Bool
  scan : Bool
  flush : Bool
  deriving DecidableEq, Repr, Inhabited

/-- Storage, with what it fails at. -/
structure Disk where
  cells : Table Bytes Bytes
  faults : Faults

/-- A storage operation failed. -/
inductive DiskFault where
  | failed
  deriving DecidableEq, Repr

namespace Disk

/-- Storage without cells that fails at nothing. -/
def empty : Disk := ⟨.empty, ⟨false, false, false, false⟩⟩

instance : Inhabited Disk := ⟨empty⟩

/-- Writes a cell. -/
def put (d : Disk) (key value : Bytes) : Except DiskFault Disk :=
  if d.faults.put then .error .failed else .ok { d with cells := d.cells.insert key value }

/-- Reads a cell. -/
def get (d : Disk) (key : Bytes) : Except DiskFault (Option Bytes) :=
  if d.faults.get then .error .failed else .ok (d.cells.get? key)

/-- Removes a cell. -/
def remove (d : Disk) (key : Bytes) : Disk := { d with cells := d.cells.erase key }

/-- The cells whose keys begin with `start`. -/
def scan (d : Disk) (start : Bytes) : Except DiskFault (List (Bytes × Bytes)) :=
  if d.faults.scan then .error .failed
  else .ok (d.cells.entries.filter fun c => start.isPrefixOf c.1)

/-- Makes sure that what was written stays. -/
def flush (d : Disk) : Except DiskFault Unit :=
  if d.faults.flush then .error .failed else .ok ()

end Disk
end OnionSwarm

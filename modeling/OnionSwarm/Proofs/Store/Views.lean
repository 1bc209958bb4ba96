/-
What a change to one list of the store leaves of the others.

Each list has a cell of its own, and a write is seen in its cell alone.  So all that is to be shown
is that the cells are different: the name of an account can be read back from its bytes, and the
cell of the pool begins otherwise than those of the swarms.
-/
import Mathlib.Tactic.Common
import OnionSwarm.Proofs.Text.Utf8
import OnionSwarm.Store.Basic

namespace OnionSwarm.Store

/-! ### Cells -/

theorem swarmCell_injective {account other : String} (same : swarmCell account = swarmCell other) :
    account = other :=
  Text.Utf8.ofString_injective (List.append_cancel_left same)

theorem swarmCell_ne_poolCell (account : String) : swarmCell account ≠ poolCell := by
  intro same
  have marks := congrArg (List.take swarmMark.length) same
  rw [swarmCell, List.take_left] at marks
  exact absurd marks (by decide +kernel)

/-- What an attempt to write a list leaves in storage.  A write that cannot be made sure of counts
like any other. -/
theorem persist_eq (d : Disk) (cell : Bytes) (nodes : List Node) :
    persist d cell nodes =
      { d with cells := if d.faults.put then d.cells else d.cells.insert cell (Node.writeList nodes) } := by
  cases fails : d.faults.put with
  | true => simp [persist, Disk.put, fails]
  | false =>
    simp only [persist, Disk.put, fails, Bool.false_eq_true, if_false]
    split <;> rfl

@[simp] theorem faults_persist (d : Disk) (cell : Bytes) (nodes : List Node) :
    (persist d cell nodes).faults = d.faults := by
  rw [persist_eq]

theorem get?_persist (d : Disk) (cell other : Bytes) (nodes : List Node) :
    (persist d cell nodes).cells.get? other =
      if other = cell ∧ d.faults.put = false then some (Node.writeList nodes)
      else d.cells.get? other := by
  rw [persist_eq]
  by_cases same : other = cell <;> cases d.faults.put <;> simp [Table.get?_insert, same]

theorem load_persist_of_ne (d : Disk) {cell other : Bytes} (ne : other ≠ cell)
    (nodes : List Node) : load (persist d cell nodes) other = load d other := by
  simp only [load, Disk.get, faults_persist, get?_persist, ne, false_and, if_false]

/-! ### Lists -/

@[simp] theorem viewSwarm_setPool (s : Store) (nodes : List Node) (account : String) :
    (s.setPool nodes).viewSwarm account = s.viewSwarm account := by
  simp only [viewSwarm, setPool]
  rw [load_persist_of_ne _ (swarmCell_ne_poolCell account)]

theorem viewSwarm_setSwarm (s : Store) (account other : String) (nodes : List Node) :
    (s.setSwarm account nodes).viewSwarm other
      = if other = account then nodes else s.viewSwarm other := by
  by_cases same : other = account
  · subst same
    simp
  · have ne : swarmCell other ≠ swarmCell account := fun cells => same (swarmCell_injective cells)
    rw [if_neg same]
    simp only [viewSwarm, setSwarm, Table.get?_insert, if_neg same]
    rw [load_persist_of_ne _ ne]

end OnionSwarm.Store

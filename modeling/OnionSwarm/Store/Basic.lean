/-
The store of the directories: the pool and one swarm for each account, kept in storage.

What was read or set once is answered from memory from then on.  Setting a list writes it to storage
as well; if that fails the list still counts, for as long as this store lives.  A list that cannot
be read is as good as none.
-/
import OnionSwarm.Node.Record
import OnionSwarm.Store.Disk

namespace OnionSwarm

/-- The lists in memory, on top of those in storage. -/
structure Store where
  disk : Disk
  pool : Option (List Node)
  swarms : Table String (List Node)

namespace Store

/-- A store that nothing was read from yet. -/
def fresh (disk : Disk) : Store := ⟨disk, none, .empty⟩

instance : Inhabited Store := ⟨fresh .empty⟩

/-- The cell of the pool. -/
def poolCell : Bytes := Bytes.ofString "snode_pool"

/-- The beginning of the cells of swarms. -/
def swarmMark : Bytes := Bytes.ofString "swarm:"

/-- The cell of a swarm. -/
def swarmCell (account : String) : Bytes := swarmMark ++ Bytes.ofString account

/-- The list in a cell; empty if there is none, or none that can be read. -/
def load (d : Disk) (cell : Bytes) : List Node :=
  match d.get cell with
  | .ok (some bytes) =>
    match Node.readList bytes with
    | .ok nodes => nodes
    | .error _ => []
  | .ok none => []
  | .error _ => []

/-- Storage after an attempt to write a list and to make sure that it stays; what was written stays
in storage also where that cannot be made sure. -/
def persist (d : Disk) (cell : Bytes) (nodes : List Node) : Disk :=
  match d.put cell (Node.writeList nodes) with
  | .error _ => d
  | .ok written =>
    match written.flush with
    | .ok () => written
    | .error _ => written

/-- The pool. -/
def viewPool (s : Store) : List Node := s.pool.getD (load s.disk poolCell)

/-- The swarm of an account. -/
def viewSwarm (s : Store) (account : String) : List Node :=
  (s.swarms.get? account).getD (load s.disk (swarmCell account))

/-- The store once the pool was read. -/
def notePool (s : Store) : Store := { s with pool := some s.viewPool }

/-- The store once a swarm was read. -/
def noteSwarm (s : Store) (account : String) : Store :=
  { s with swarms := s.swarms.insert account (s.viewSwarm account) }

/-- Replaces the pool. -/
def setPool (s : Store) (nodes : List Node) : Store :=
  { s with disk := persist s.disk poolCell nodes, pool := some nodes }

/-- Replaces the swarm of an account. -/
def setSwarm (s : Store) (account : String) (nodes : List Node) : Store :=
  { s with disk := persist s.disk (swarmCell account) nodes
           swarms := s.swarms.insert account nodes }

/-- The account that a cell holds the swarm of. -/
def accountOf? (cell : Bytes) : Option String :=
  if (Text.Utf8.decode? cell).isSome then
    (Bytes.after? swarmMark cell).bind Text.Utf8.decode?
  else none

/-- The accounts whose swarms are in storage. -/
def accounts (s : Store) : List String :=
  match s.disk.scan swarmMark with
  | .ok cells => cells.filterMap fun c => accountOf? c.1
  | .error _ => []

@[simp] theorem viewPool_notePool (s : Store) : s.notePool.viewPool = s.viewPool := rfl

@[simp] theorem viewPool_setPool (s : Store) (nodes : List Node) :
    (s.setPool nodes).viewPool = nodes := rfl

@[simp] theorem viewSwarm_noteSwarm (s : Store) (account other : String) :
    (s.noteSwarm account).viewSwarm other = s.viewSwarm other := by
  by_cases h : other = account <;> simp [viewSwarm, noteSwarm, Table.get?_insert, h]

@[simp] theorem viewSwarm_notePool (s : Store) (account : String) :
    s.notePool.viewSwarm account = s.viewSwarm account := rfl

@[simp] theorem viewPool_noteSwarm (s : Store) (account : String) :
    (s.noteSwarm account).viewPool = s.viewPool := rfl

@[simp] theorem viewSwarm_setSwarm_self (s : Store) (account : String) (nodes : List Node) :
    (s.setSwarm account nodes).viewSwarm account = nodes := by
  simp [viewSwarm, setSwarm]

end Store
end OnionSwarm

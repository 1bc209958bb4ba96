/-
What the store answers, told from what was done to it.

A history says what was done, the last deed first.  Two things can be read off it for each list:
what the list was last set to since the store was opened, and what was last written of it to
storage.  They say all there is to know: the store answers the first, or else the second, or else
nothing (`view_after`).

The store itself knows less.  A list that was only read lies in memory like one that was set, and of
one that could not be written there is an older text in storage, or none.  So the induction needs
both sides of that (`Mirrors`): what is in memory is what would be answered anyway, and what was set
is in memory.
-/
import Mathlib.Tactic.Common
import OnionSwarm.Proofs.Node.Record
import OnionSwarm.Proofs.Store.Views

namespace OnionSwarm.Store

/-- The lists that the store keeps. -/
inductive ListName where
  | pool
  | swarm (account : String)
  deriving DecidableEq, Repr

/-- The cell of a list. -/
def ListName.cell : ListName → Bytes
  | .pool => poolCell
  | .swarm account => swarmCell account

/-- What is done to a store. -/
inductive Deed where
  /-- A list is replaced, where storage may fail to take it, or to make sure that it stays. -/
  | set (name : ListName) (nodes : List Node) (unwritten unsure : Bool)
  /-- A list is asked for. -/
  | get (name : ListName)
  /-- The accounts are asked for. -/
  | list
  /-- The store is opened again, on the same storage. -/
  | reopen
  deriving DecidableEq, Repr

/-- What is answered when a list is asked for. -/
def view (s : Store) : ListName → List Node
  | .pool => s.viewPool
  | .swarm account => s.viewSwarm account

/-- The store once a list was asked for. -/
def note (s : Store) : ListName → Store
  | .pool => s.notePool
  | .swarm account => s.noteSwarm account

/-- The store once a list was replaced. -/
def set (s : Store) (nodes : List Node) : ListName → Store
  | .pool => s.setPool nodes
  | .swarm account => s.setSwarm account nodes

/-- The store whose storage fails, or does not, to write and to make sure. -/
def failing (s : Store) (unwritten unsure : Bool) : Store :=
  { s with disk := { s.disk with faults := { s.disk.faults with put := unwritten, flush := unsure } } }

/-- The store after one deed more. -/
def next (s : Store) : Deed → Store
  | .set name nodes unwritten unsure => (s.failing unwritten unsure).set nodes name
  | .get name => s.note name
  | .list => s
  | .reopen => fresh s.disk

/-- The store after a history that began with empty storage. -/
def after : List Deed → Store
  | [] => fresh .empty
  | deed :: earlier => (after earlier).next deed

/-! ### What a history says of a list -/

/-- What a list was last set to since the store was opened. -/
def lastSet (name : ListName) : List Deed → Option (List Node)
  | [] => none
  | .set other nodes _ _ :: earlier => if other = name then some nodes else lastSet name earlier
  | .get _ :: earlier => lastSet name earlier
  | .list :: earlier => lastSet name earlier
  | .reopen :: _ => none

/-- What was last written of a list. -/
def lastPut (name : ListName) : List Deed → Option (List Node)
  | [] => none
  | .set other nodes unwritten _ :: earlier =>
    if other = name ∧ unwritten = false then some nodes else lastPut name earlier
  | .get _ :: earlier => lastPut name earlier
  | .list :: earlier => lastPut name earlier
  | .reopen :: earlier => lastPut name earlier

/-- What is to be answered for a list: what it was set to since the store was opened, or else what
was written of it, or else nothing. -/
def recalled (name : ListName) (history : List Deed) : List Node :=
  (lastSet name history).getD ((lastPut name history).getD [])

/-- The nodes that a deed brings. -/
def Deed.nodes : Deed → List Node
  | .set _ nodes _ _ => nodes
  | _ => []

/-- A history that brings only nodes whose numbers have sixteen bits. -/
def Fitting (history : List Deed) : Prop := ∀ deed ∈ history, ∀ n ∈ deed.nodes, n.Fits

instance (history : List Deed) : Decidable (Fitting history) :=
  inferInstanceAs (Decidable (∀ deed ∈ history, ∀ n ∈ deed.nodes, n.Fits))

theorem fits_of_lastPut {history : List Deed} (fitting : Fitting history) {name : ListName}
    {nodes : List Node} (put : lastPut name history = some nodes) : ∀ n ∈ nodes, n.Fits := by
  induction history with
  | nil => cases put
  | cons deed earlier ih =>
    have before := fun found => ih (fun deed mem => fitting deed (List.mem_cons_of_mem _ mem)) found
    cases deed with
    | set other new unwritten unsure =>
      rw [lastPut] at put
      split at put
      · cases put
        exact fitting (.set other nodes unwritten unsure) List.mem_cons_self
      · exact before put
    | get _ => exact before put
    | list => exact before put
    | reopen => exact before put

/-! ### One deed -/

/-- The list in memory. -/
def memory? (s : Store) : ListName → Option (List Node)
  | .pool => s.pool
  | .swarm account => s.swarms.get? account

theorem cell_injective {name other : ListName} (same : name.cell = other.cell) : name = other := by
  cases name with
  | pool =>
    cases other with
    | pool => rfl
    | swarm account => exact (swarmCell_ne_poolCell account same.symm).elim
  | swarm account =>
    cases other with
    | pool => exact (swarmCell_ne_poolCell account same).elim
    | swarm other => rw [swarmCell_injective same]

theorem view_eq (s : Store) (name : ListName) :
    s.view name = (s.memory? name).getD (load s.disk name.cell) := by
  cases name <;> rfl

theorem disk_note (s : Store) (name : ListName) : (s.note name).disk = s.disk := by
  cases name <;> rfl

theorem disk_set (s : Store) (nodes : List Node) (name : ListName) :
    (s.set nodes name).disk = persist s.disk name.cell nodes := by
  cases name <;> rfl

theorem memory?_note (s : Store) (name other : ListName) :
    (s.note name).memory? other = if other = name then some (s.view name) else s.memory? other := by
  cases name <;> cases other <;> simp [memory?, note, view, notePool, noteSwarm, Table.get?_insert]

theorem memory?_set (s : Store) (nodes : List Node) (name other : ListName) :
    (s.set nodes name).memory? other = if other = name then some nodes else s.memory? other := by
  cases name <;> cases other <;> simp [memory?, set, setPool, setSwarm, Table.get?_insert]

/-! ### A whole history -/

/-- A store that a history may have led to. -/
structure Mirrors (s : Store) (history : List Deed) : Prop where
  /-- Reading does not fail. -/
  readable : s.disk.faults.get = false ∧ s.disk.faults.scan = false
  /-- In storage is what was last written. -/
  cells : ∀ name : ListName,
    s.disk.cells.get? name.cell = (lastPut name history).map Node.writeList
  /-- There is nothing else in storage. -/
  named : ∀ cell ∈ s.disk.cells.keys, ∃ name : ListName, cell = name.cell
  /-- What is in memory is what has to be answered. -/
  true_memory : ∀ name nodes, s.memory? name = some nodes → nodes = recalled name history
  /-- What was set is in memory. -/
  kept : ∀ name nodes, lastSet name history = some nodes → s.memory? name = some nodes

namespace Mirrors

variable {s : Store} {history : List Deed}

theorem load (mirrors : Mirrors s history) (fitting : Fitting history) (name : ListName) :
    Store.load s.disk name.cell = (lastPut name history).getD [] := by
  rw [Store.load, Disk.get, mirrors.readable.1, if_neg (by simp), mirrors.cells]
  cases put : lastPut name history with
  | none => rfl
  | some nodes =>
    simp only [Option.map_some, Node.readList_writeList (fits_of_lastPut fitting put),
      Option.getD_some]

theorem view (mirrors : Mirrors s history) (fitting : Fitting history) (name : ListName) :
    s.view name = recalled name history := by
  rw [view_eq]
  cases known : s.memory? name with
  | some nodes => exact mirrors.true_memory name nodes known
  | none =>
    have unset : lastSet name history = none := by
      by_contra set
      obtain ⟨nodes, set⟩ := Option.ne_none_iff_exists'.mp set
      rw [mirrors.kept name nodes set] at known
      cases known
    rw [recalled, unset, Option.getD_none, Option.getD_none, mirrors.load fitting]

theorem set (mirrors : Mirrors s history) (name : ListName) (nodes : List Node)
    (unwritten unsure : Bool) :
    Mirrors ((s.failing unwritten unsure).set nodes name)
      (.set name nodes unwritten unsure :: history) where
  readable := by
    rw [disk_set, faults_persist]
    exact mirrors.readable
  cells other := by
    have before := mirrors.cells other
    rw [disk_set, get?_persist, lastPut]
    -- a cell is new exactly if it is the one of this list and the write did not fail
    by_cases written : name = other ∧ unwritten = false
    · rw [if_pos ⟨congrArg _ written.1.symm, written.2⟩, if_pos written]
      rfl
    · rw [if_neg fun found => written ⟨cell_injective found.1.symm, found.2⟩, if_neg written]
      exact before
  named cell mem := by
    rw [disk_set, Table.mem_keys_iff, get?_persist] at mem
    split at mem
    · next written => exact ⟨name, written.1⟩
    · exact mirrors.named cell ((Table.mem_keys_iff _ _).mpr mem)
  true_memory other known found := by
    rw [memory?_set] at found
    split at found
    · next same =>
      cases found
      rw [recalled, lastSet, if_pos same.symm]
      rfl
    · next ne =>
      rw [mirrors.true_memory other known found, recalled, recalled, lastSet, lastPut,
        if_neg (Ne.symm ne), if_neg fun same => ne same.1.symm]
  kept other known found := by
    rw [lastSet] at found
    rw [memory?_set]
    split at found
    · next same =>
      rw [if_pos same.symm]
      exact found
    · next ne =>
      rw [if_neg (Ne.symm ne)]
      exact mirrors.kept other known found

theorem get (mirrors : Mirrors s history) (fitting : Fitting history) (name : ListName) :
    Mirrors (s.note name) (.get name :: history) where
  readable := by
    rw [disk_note]
    exact mirrors.readable
  cells other := by
    rw [disk_note]
    exact mirrors.cells other
  named := by
    rw [disk_note]
    exact mirrors.named
  true_memory other known found := by
    rw [memory?_note] at found
    split at found
    · next same =>
      cases found
      rw [same]
      exact mirrors.view fitting name
    · exact mirrors.true_memory other known found
  kept other known found := by
    have before := mirrors.kept other known found
    rw [memory?_note]
    split
    · next same => rw [← same, view_eq, before, Option.getD_some]
    · exact before

theorem reopen (mirrors : Mirrors s history) : Mirrors (fresh s.disk) (.reopen :: history) where
  readable := mirrors.readable
  cells := mirrors.cells
  named := mirrors.named
  true_memory name known found := by
    cases name <;> cases found
  kept name known found := by
    cases found

end Mirrors

/-- Every history leads to a store that mirrors it. -/
theorem mirrors_after {history : List Deed} (fitting : Fitting history) :
    Mirrors (after history) history := by
  induction history with
  | nil =>
    refine ⟨⟨rfl, rfl⟩, fun _ => rfl, fun cell mem => ?_, fun name _ found => ?_, fun _ _ found => ?_⟩
    · cases mem
    · cases name <;> cases found
    · cases found
  | cons deed earlier ih =>
    have before := fun deed mem => fitting deed (List.mem_cons_of_mem _ mem)
    have mirrors := ih before
    cases deed with
    | set name nodes unwritten unsure => exact mirrors.set name nodes unwritten unsure
    | get name => exact mirrors.get before name
    | list => exact ⟨mirrors.readable, mirrors.cells, mirrors.named, mirrors.true_memory, mirrors.kept⟩
    | reopen => exact mirrors.reopen

/-! ### Accounts -/

theorem accountOf?_swarmCell (account : String) : accountOf? (swarmCell account) = some account := by
  have text : swarmCell account = Bytes.ofString ("swarm:" ++ account) :=
    (Json.ofString_append "swarm:" account).symm
  have decoded : (Text.Utf8.decode? (swarmCell account)).isSome = true := by
    rw [text, Text.Utf8.decode?_ofString]
    rfl
  rw [accountOf?, if_pos decoded, swarmCell, Bytes.after?_append, Option.bind_some,
    Text.Utf8.decode?_ofString]

theorem accountOf?_poolCell : accountOf? poolCell = none := by
  decide +kernel

theorem accountOf?_cell_iff (name : ListName) (account : String) :
    accountOf? name.cell = some account ↔ name = .swarm account := by
  cases name with
  | pool => simp [ListName.cell, accountOf?_poolCell]
  | swarm other => simp [ListName.cell, accountOf?_swarmCell]

theorem isPrefixOf_swarmCell (account : String) :
    swarmMark.isPrefixOf (swarmCell account) = true :=
  List.isPrefixOf_iff_prefix.mpr (List.prefix_append _ _)

namespace Mirrors

variable {s : Store} {history : List Deed}

theorem accounts_eq (mirrors : Mirrors s history) :
    s.accounts
      = (s.disk.cells.entries.filter fun c => swarmMark.isPrefixOf c.1).filterMap
          fun c => accountOf? c.1 := by
  rw [accounts, Disk.scan, mirrors.readable.2, if_neg (by simp)]

/-- A cell that is taken for the swarm of an account is that. -/
theorem cell_of_accountOf? (mirrors : Mirrors s history) {cell : Bytes}
    (mem : cell ∈ s.disk.cells.keys) {account : String} (found : accountOf? cell = some account) :
    cell = swarmCell account := by
  obtain ⟨name, rfl⟩ := mirrors.named cell mem
  rw [(accountOf?_cell_iff name account).mp found]
  rfl

theorem mem_accounts_iff (mirrors : Mirrors s history) (account : String) :
    account ∈ s.accounts ↔ swarmCell account ∈ s.disk.cells.keys := by
  rw [mirrors.accounts_eq, List.mem_filterMap]
  constructor
  · rintro ⟨c, mem, found⟩
    have key : c.1 ∈ s.disk.cells.keys := List.mem_map_of_mem (List.mem_filter.mp mem).1
    rw [← mirrors.cell_of_accountOf? key found]
    exact key
  · intro mem
    obtain ⟨c, entry, same⟩ := List.mem_map.mp mem
    refine ⟨c, List.mem_filter.mpr ⟨entry, ?_⟩, ?_⟩
    · rw [same, isPrefixOf_swarmCell]
    · rw [same, accountOf?_swarmCell]

theorem nodup_accounts (mirrors : Mirrors s history) : s.accounts.Nodup := by
  rw [mirrors.accounts_eq, List.Nodup, List.pairwise_filterMap]
  have apart : s.disk.cells.entries.Pairwise fun c d => c.1 ≠ d.1 :=
    List.pairwise_map.mp s.disk.cells.nodup
  refine (List.Pairwise.filter _ apart).imp_of_mem fun {c d} memC memD ne => ?_
  intro account foundC other foundD same
  have keyC : c.1 ∈ s.disk.cells.keys := List.mem_map_of_mem (List.mem_filter.mp memC).1
  have keyD : d.1 ∈ s.disk.cells.keys := List.mem_map_of_mem (List.mem_filter.mp memD).1
  rw [mirrors.cell_of_accountOf? keyC foundC, mirrors.cell_of_accountOf? keyD foundD, same] at ne
  exact ne rfl

end Mirrors

/-- A list was written if there is a last time that it was. -/
theorem lastPut_isSome_iff (name : ListName) (history : List Deed) :
    (∃ nodes, lastPut name history = some nodes)
      ↔ ∃ nodes unsure, .set name nodes false unsure ∈ history := by
  induction history with
  | nil => simp [lastPut]
  | cons deed earlier ih =>
    cases deed with
    | set other nodes unwritten unsure =>
      rw [lastPut]
      by_cases written : other = name ∧ unwritten = false
      · obtain ⟨rfl, rfl⟩ := written
        simp only [true_and, if_true]
        exact ⟨fun _ => ⟨nodes, unsure, List.mem_cons_self⟩, fun _ => ⟨nodes, rfl⟩⟩
      · have other : ∀ nodes' unsure', Deed.set name nodes' false unsure' ≠
            .set other nodes unwritten unsure := by
          rintro nodes' unsure' ⟨⟩
          exact written ⟨rfl, rfl⟩
        rw [if_neg written, ih]
        simp only [List.mem_cons, other, false_or]
    | get _ => simpa [lastPut] using ih
    | list => simpa [lastPut] using ih
    | reopen => simpa [lastPut] using ih

/-! ### One list alone -/

/-- Does a deed touch a list?  To open the store again touches all of them. -/
def Deed.touches (name : ListName) : Deed → Bool
  | .set other _ _ _ => other = name
  | .get other => other = name
  | .list => false
  | .reopen => true

theorem lastSet_filter (name : ListName) (history : List Deed) :
    lastSet name (history.filter (Deed.touches name)) = lastSet name history := by
  induction history with
  | nil => rfl
  | cons deed earlier ih =>
    cases deed with
    | set other nodes unwritten unsure =>
      by_cases same : other = name <;> simp [Deed.touches, lastSet, same, ih]
    | get other =>
      by_cases same : other = name <;> simp [Deed.touches, lastSet, same, ih]
    | list => simp [Deed.touches, lastSet, ih]
    | reopen => rfl

theorem lastPut_filter (name : ListName) (history : List Deed) :
    lastPut name (history.filter (Deed.touches name)) = lastPut name history := by
  induction history with
  | nil => rfl
  | cons deed earlier ih =>
    cases deed with
    | set other nodes unwritten unsure =>
      by_cases same : other = name <;> simp [Deed.touches, lastPut, same, ih]
    | get other =>
      by_cases same : other = name <;> simp [Deed.touches, lastPut, same, ih]
    | list => simp [Deed.touches, lastPut, ih]
    | reopen => rw [List.filter_cons_of_pos rfl, lastPut, lastPut, ih]

/-! ### The store -/

/-- **The store answers what it was last told.**  For every list that is what it was last set to
since the store was opened, even if that could not be written or made sure of; or else what was last
written of it; or else the empty list.  What was done to other lists makes no difference.  The
accounts are those whose swarms were written, each of them once. -/
theorem store_recalls {history : List Deed} (fitting : Fitting history) :
    (∀ name, (after history).view name = recalled name history) ∧
    (∀ name, (after (history.filter (Deed.touches name))).view name = (after history).view name) ∧
    (after history).accounts.Nodup ∧
    ∀ account, account ∈ (after history).accounts ↔
      ∃ nodes unsure, .set (.swarm account) nodes false unsure ∈ history := by
  have mirrors := mirrors_after fitting
  refine ⟨mirrors.view fitting, fun name => ?_, mirrors.nodup_accounts, fun account => ?_⟩
  · have alone : Fitting (history.filter (Deed.touches name)) :=
      fun deed mem => fitting deed (List.mem_filter.mp mem).1
    rw [(mirrors_after alone).view alone, mirrors.view fitting, recalled, recalled, lastSet_filter,
      lastPut_filter]
  · have cell := mirrors.cells (.swarm account)
    rw [ListName.cell] at cell
    rw [mirrors.mem_accounts_iff, Table.mem_keys_iff, cell, ← lastPut_isSome_iff]
    cases lastPut (.swarm account) history <;> simp

/-- A node of the trial history. -/
def trialNode (port : Nat) : Node :=
  ⟨"http://relay \"one\"", port, ⟨"", "key"⟩, ⟨2, 65535, 0⟩⟩

/-- The pool is written once, and a second time in vain; then the store is opened again.  One swarm
is written, and another one is only asked for. -/
def trialHistory : List Deed :=
  [.list, .get (.swarm "05bb"), .get .pool, .reopen, .set .pool [trialNode 2] true false,
    .get .pool, .set .pool [trialNode 1] false true, .get .pool,
    .set (.swarm "05aa") [trialNode 65535, trialNode 0] false false]

theorem store_recalls_trial :
    Fitting trialHistory ∧ (after trialHistory).view .pool = [trialNode 1] ∧
    (after trialHistory).view (.swarm "05aa") = [trialNode 65535, trialNode 0] ∧
    "05aa" ∈ (after trialHistory).accounts ∧ "05bb" ∉ (after trialHistory).accounts := by
  have fitting : Fitting trialHistory := by decide
  obtain ⟨answers, -, -, accounts⟩ := store_recalls fitting
  refine ⟨fitting, answers .pool, answers (.swarm "05aa"), ?_, ?_⟩
  · exact (accounts "05aa").mpr ⟨[trialNode 65535, trialNode 0], false, by decide⟩
  · rw [accounts]
    simp [trialHistory]

end OnionSwarm.Store

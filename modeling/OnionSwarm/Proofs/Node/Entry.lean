/-
What is known of the nodes in the replies of strangers.

Anything may stand in such a reply.  What makes a node of an entry is one chain of checks, so what
is known of the node is what each check lets through: a number of sixteen bits that is not zero, a
text with a scheme in front, keys that are all digits.  A list of nodes is made by adding them one
by one, each unless its site is taken, and that is why no site is in it twice.

Seeds, nodes that are asked for a swarm, and nodes that refuse a call are all read in the same way,
so their lists have these properties too.
-/
import OnionSwarm.Client.Pool
import OnionSwarm.Directory.Swarm
import OnionSwarm.Proofs.Node.Record
import OnionSwarm.Proofs.Onion.Guards
import OnionSwarm.Proofs.Text.Hex

namespace OnionSwarm

open Text.Decimal (last16)

/-- A key as it is kept: 64 hexadecimal digits in lower case. -/
structure IsKeptKey (key : String) : Prop where
  length : key.toList.length = 64
  digits : ∀ c ∈ key.toList, Text.Hex.IsLower c

/-- **A key that is kept can be read**, and has 32 bytes. -/
theorem IsKeptKey.readKey {key : String} (kept : IsKeptKey key) :
    ∃ bytes, readKey key = .ok bytes ∧ bytes.length = 32 := by
  have length := kept.length
  obtain ⟨bytes, read, count⟩ := Text.Hex.decode_of_isLower kept.digits (by omega)
  have whole : bytes.length = 32 := by omega
  refine ⟨bytes, ?_, whole⟩
  simp only [OnionSwarm.readKey, read, if_pos whole]

namespace Node

/-- A node that can be reached, and that layers can be encrypted for. -/
structure WellFormed (n : Node) : Prop where
  port : 1 ≤ n.port ∧ n.port ≤ 65535
  address : "http://".toList <+: n.address.toList ∨ "https://".toList <+: n.address.toList
  ed25519 : IsKeptKey n.keys.ed25519
  x25519 : IsKeptKey n.keys.x25519
  version : n.version.Fits

theorem WellFormed.fits {n : Node} (well : n.WellFormed) : n.Fits := ⟨well.port.2, well.version⟩

/-- Well-formed nodes, none of them twice. -/
structure WellListed (nodes : List Node) : Prop where
  distinct : Distinct nodes
  each : ∀ n ∈ nodes, n.WellFormed

theorem WellListed.nil : WellListed [] := ⟨List.nodup_nil, fun _ mem => nomatch mem⟩

/-- A list stays well formed when nodes leave it. -/
theorem WellListed.sublist {nodes more : List Node} (well : WellListed more)
    (within : nodes.Sublist more) : WellListed nodes :=
  ⟨well.distinct.sublist within, fun n mem => well.each n (within.subset mem)⟩

theorem WellListed.singleton {n : Node} (well : n.WellFormed) : WellListed [n] :=
  ⟨List.nodup_singleton _, fun _ mem => List.mem_singleton.1 mem ▸ well⟩

/-- **A well-formed list is read back as it was written.** -/
theorem WellListed.readList_writeList {nodes : List Node} (well : WellListed nodes) :
    readList (writeList nodes) = .ok nodes :=
  Node.readList_writeList fun n mem => (well.each n mem).fits

/-! ### One entry -/

theorem hasScheme_iff {text : String} : hasScheme text = true ↔
    "http://".toList <+: text.toList ∨ "https://".toList <+: text.toList := by
  simp only [hasScheme, Bool.or_eq_true, List.isPrefixOf_iff_prefix]

theorem entryPort?_range {entry : Json} {port : Nat} (read : entryPort? entry = some port) :
    1 ≤ port ∧ port ≤ 65535 := by
  have nonzero {value : Nat} (small : value ≤ last16)
      (checked : (if value = 0 then none else some value) = some port) :
      1 ≤ port ∧ port ≤ 65535 := by
    split at checked
    · cases checked
    · obtain rfl := Option.some.inj checked
      rw [last16] at small
      omega
  simp only [entryPort?, Option.bind_eq_bind, Option.bind_eq_some_iff] at read
  obtain ⟨field, -, read⟩ := read
  split at read
  · split at read
    · exact nonzero (by omega) read
    · cases read
  · split at read
    · rename_i parsed
      exact nonzero (Text.Decimal.parse_le parsed) read
    · cases read
  · cases read

theorem entryKey?_kept {name key : String} {entry : Json} (read : entryKey? name entry = some key) :
    IsKeptKey key := by
  simp only [entryKey?, Option.bind_eq_bind, Option.bind_eq_some_iff] at read
  obtain ⟨text, -, checked⟩ := read
  split at checked
  · rename_i isKey
    obtain rfl := Option.some.inj checked
    simp only [Node.isKey, keyDigits, Bool.and_eq_true, beq_iff_eq] at isKey
    obtain ⟨length, lower⟩ := Text.Hex.isLower_of_isDigits isKey.2
    refine ⟨?_, ?_⟩
    · rw [String.toList_ofList, List.length_map, ← length, isKey.1]
    · rw [String.toList_ofList]
      intro c mem
      obtain ⟨digit, within, rfl⟩ := List.mem_map.1 mem
      exact lower digit within
  · cases checked

theorem fits_entryVersion (entry : Json) : (entryVersion entry).Fits :=
  ⟨Nat.min_le_right _ _, Nat.min_le_right _ _, Nat.min_le_right _ _⟩

/-- **The node of an entry is well formed**, whatever stands in the entry. -/
theorem wellFormed_of_entry {entry : Json} {n : Node} (read : entryNode? entry = some n) :
    n.WellFormed := by
  simp only [entryNode?, Option.bind_eq_bind, Option.bind_eq_some_iff] at read
  obtain ⟨host, -, port, port_read, ed25519, ed25519_read, x25519, x25519_read, made⟩ := read
  obtain rfl := Option.some.inj made
  refine ⟨entryPort?_range port_read, ?_, entryKey?_kept ed25519_read, entryKey?_kept x25519_read,
    fits_entryVersion entry⟩
  dsimp only
  split
  · exact hasScheme_iff.1 ‹_›
  · rw [String.toList_append]
    exact .inr (List.prefix_append _ _)

/-! ### Lists of entries -/

theorem WellListed.insertNew {nodes : List Node} (well : WellListed nodes) {n : Node}
    (formed : n.WellFormed) : WellListed (insertNew nodes n) := by
  rw [Node.insertNew]
  split
  · exact well
  · rename_i fresh
    refine ⟨well.distinct.append (List.nodup_singleton _) fun m mem => ?_, fun m mem => ?_⟩
    · rw [List.mem_singleton.1 mem]
      simpa using fresh
    · rcases List.mem_append.1 mem with old | new
      · exact well.each m old
      · rw [List.mem_singleton.1 new]
        exact formed

/-- **The list of some entries is well formed**, whatever stands in them. -/
theorem wellListed_ofEntries (entries : List Json) : WellListed (ofEntries entries) := by
  have each : ∀ (more nodes : List Node), (∀ n ∈ more, n.WellFormed) → WellListed nodes →
      WellListed (more.foldl Node.insertNew nodes) := by
    intro more
    induction more with
    | nil => exact fun nodes _ well => well
    | cons n more ih =>
      intro nodes formed well
      exact ih _ (fun m mem => formed m (List.mem_cons_of_mem n mem))
        (well.insertNew (formed n List.mem_cons_self))
  refine each _ [] (fun n mem => ?_) .nil
  obtain ⟨entry, -, read⟩ := List.mem_filterMap.1 mem
  exact wellFormed_of_entry read

/-- What is in a list after some nodes were added was there before or is one of them. -/
theorem mem_or_mem_of_foldl {more nodes : List Node} {n : Node}
    (mem : n ∈ more.foldl insertNew nodes) : n ∈ nodes ∨ n ∈ more := by
  induction more generalizing nodes with
  | nil => exact .inl mem
  | cons m more ih =>
    rcases ih mem with old | new
    · rw [insertNew] at old
      split at old
      · exact .inl old
      · rcases List.mem_append.1 old with old | new
        · exact .inl old
        · exact .inr (List.mem_singleton.1 new ▸ List.mem_cons_self)
    · exact .inr (List.mem_cons_of_mem m new)

/-- No site gets lost when nodes are added. -/
theorem isIn_foldl_iff {more nodes : List Node} {n : Node} :
    n.isIn (more.foldl insertNew nodes) = true ↔ n.isIn nodes = true ∨ n.isIn more = true := by
  have added (m : Node) (nodes : List Node) :
      n.isIn (insertNew nodes m) = true ↔ n.isIn nodes = true ∨ n.site = m.site := by
    rw [insertNew]
    split
    · rename_i within
      refine ⟨.inl, fun either => either.elim id fun same => ?_⟩
      rw [isIn_iff, same]
      exact isIn_iff.1 within
    · rw [isIn_iff, isIn_iff, List.map_append, List.mem_append, List.map_singleton,
        List.mem_singleton]
  induction more generalizing nodes with
  | nil => simp [isIn]
  | cons m more ih =>
    refine ih.trans ?_
    rw [added, or_assoc]
    simp only [isIn_iff, List.map_cons, List.mem_cons]

/-- A node of the list stands in an entry. -/
theorem exists_entry_of_mem {entries : List Json} {n : Node} (mem : n ∈ ofEntries entries) :
    ∃ entry ∈ entries, entryNode? entry = some n := by
  rcases mem_or_mem_of_foldl mem with old | new
  · exact absurd old List.not_mem_nil
  · exact List.mem_filterMap.1 new

/-- The node of an entry is in the list, as that entry has it or as an earlier one does. -/
theorem exists_mem_of_entry {entries : List Json} {entry : Json} {n : Node}
    (mem : entry ∈ entries) (read : entryNode? entry = some n) :
    ∃ m ∈ ofEntries entries, m.site = n.site := by
  have usable : n ∈ entries.filterMap entryNode? := List.mem_filterMap.2 ⟨entry, mem, read⟩
  have within : n.isIn (ofEntries entries) = true := isIn_foldl_iff.2 (.inr (isIn_of_mem usable))
  exact List.mem_map.1 (isIn_iff.1 within)

/-- One usable entry is enough for a list with a node. -/
theorem ofEntries_ne_nil_iff {entries : List Json} :
    ofEntries entries ≠ [] ↔ ∃ entry ∈ entries, ∃ n, entryNode? entry = some n := by
  constructor
  · intro some
    obtain ⟨n, mem⟩ := List.exists_mem_of_ne_nil _ some
    obtain ⟨entry, within, read⟩ := exists_entry_of_mem mem
    exact ⟨entry, within, n, read⟩
  · rintro ⟨entry, within, n, read⟩
    obtain ⟨m, mem, -⟩ := exists_mem_of_entry within read
    exact List.ne_nil_of_mem mem

end Node

/-! ### Replies -/

theorem Pool.wellListed_ofSeedReply {body : Bytes} {nodes : List Node}
    (read : ofSeedReply body = .ok nodes) : Node.WellListed nodes := by
  unfold ofSeedReply at read
  split at read
  · cases read
  · split at read
    · cases read
    · rename_i entries _
      split at read
      · cases read
      · obtain rfl := Except.ok.inj read
        exact Node.wellListed_ofEntries entries

theorem SeedSource.wellListed_readAnswer {seed : String} {answer : Except HttpFailure HttpReply}
    {nodes : List Node} (read : readAnswer seed answer = .ok nodes) : Node.WellListed nodes := by
  unfold readAnswer at read
  split at read
  · cases read
  · split at read
    · exact Pool.wellListed_ofSeedReply read
    · cases read

namespace Swarm

theorem wellListed_ofReply? {reply : Json} {nodes : List Node} (read : ofReply? reply = some nodes) :
    Node.WellListed nodes := by
  obtain ⟨entries, -, rfl⟩ := Option.map_eq_some_iff.1 read
  exact Node.wellListed_ofEntries entries

theorem wellListed_ofBody (body : Option Bytes) : Node.WellListed (ofBody body) := by
  unfold ofBody
  split
  · exact .nil
  · split
    · exact .nil
    · rename_i reply _
      cases read : ofReply? reply with
      | none => exact .nil
      | some nodes => exact wellListed_ofReply? read

end Swarm
end OnionSwarm

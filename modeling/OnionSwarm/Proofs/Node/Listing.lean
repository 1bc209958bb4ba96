/-
Which entries of a list count.

A list of nodes is made from its entries one after another, and what becomes of an entry hangs on the
list that is there when its turn comes.  But that list has the sites of all the entries before, no
more and no fewer, so an entry counts exactly if it can be read and no entry before it can be read at
the same site (`firstAt?`).  Keys make no difference to this.

All else is about lists that are joined.  The second one adds what it would come to by itself, less
what is there already (`ofEntries_append`), and an entry that does not count adds nothing.
-/
import Mathlib.Tactic.Common
import OnionSwarm.Proofs.Node.Hosts

namespace OnionSwarm.Node

/-! ### Nodes that are added -/

theorem isIn_append_outside_iff {n : Node} {nodes more : List Node} :
    n.isIn (nodes ++ outside more nodes) = true ↔ n.isIn nodes = true ∨ n.isIn more = true := by
  have joined : n.isIn (nodes ++ outside more nodes) = true ↔
      n.isIn nodes = true ∨ n.isIn (outside more nodes) = true := by
    rw [isIn, List.any_append, Bool.or_eq_true]
    rfl
  rw [joined]
  constructor
  · refine Or.imp_right fun added => ?_
    obtain ⟨m, mem, same⟩ := List.mem_map.1 (isIn_iff.1 added)
    exact isIn_iff.2 (same ▸ List.mem_map_of_mem (mem_outside_iff.1 mem).1)
  · rintro (old | added)
    · exact .inl old
    · obtain ⟨m, mem, same⟩ := List.mem_map.1 (isIn_iff.1 added)
      by_cases old : m.isIn nodes = true
      · exact .inl (isIn_iff.2 (same ▸ isIn_iff.1 old))
      · have new : m ∈ outside more nodes := mem_outside_iff.2 ⟨mem, Bool.eq_false_iff.2 old⟩
        exact .inr (isIn_iff.2 (same ▸ List.mem_map_of_mem new))

/-- What nodes add to a list is what they come to by themselves, less what the list has. -/
theorem foldl_insertNew_eq (more nodes : List Node) :
    more.foldl insertNew nodes = nodes ++ outside (more.foldl insertNew []) nodes := by
  -- the last node is added to both sides, so the induction is on the list from its end
  induction more using List.reverseRecOn with
  | nil => exact (List.append_nil nodes).symm
  | append_singleton more n ih =>
    simp only [List.foldl_append, List.foldl_cons, List.foldl_nil, ih]
    generalize more.foldl insertNew [] = alone
    by_cases added : n.isIn alone = true
    · rw [insertNew, insertNew, if_pos added, if_pos (isIn_append_outside_iff.2 (.inr added))]
    · have split : outside (alone ++ [n]) nodes = outside alone nodes ++ outside [n] nodes :=
        List.filter_append ..
      rw [insertNew, insertNew, if_neg added, split]
      by_cases old : n.isIn nodes = true
      · have gone : outside [n] nodes = [] := by simp [outside, old]
        rw [if_pos (isIn_append_outside_iff.2 (.inl old)), gone, List.append_nil]
      · have kept : outside [n] nodes = [n] := by simp [outside, old]
        rw [if_neg fun within => (isIn_append_outside_iff.1 within).elim old added, kept,
          List.append_assoc]

/-! ### Lists of entries that are joined -/

/-- **Joined lists**: the second adds its nodes that the first does not have. -/
theorem ofEntries_append (entries more : List Json) :
    ofEntries (entries ++ more)
      = ofEntries entries ++ outside (ofEntries more) (ofEntries entries) := by
  rw [ofEntries, List.filterMap_append, List.foldl_append]
  exact foldl_insertNew_eq _ _

/-- One more entry adds its node, if it has one and the list has not. -/
theorem ofEntries_concat (entries : List Json) (entry : Json) :
    ofEntries (entries ++ [entry])
      = ofEntries entries ++
        ((entryNode? entry).filter fun n => !n.isIn (ofEntries entries)).toList := by
  rw [ofEntries_append]
  congr 1
  cases read : entryNode? entry with
  | none => simp [ofEntries, read, outside]
  | some n =>
    have alone : ofEntries [entry] = [n] := by
      simp [ofEntries, read, insertNew, isIn]
    rw [alone, outside]
    cases within : n.isIn (ofEntries entries) <;> simp [Option.filter, within]

theorem ofEntries_insert {before : List Json} {entry : Json} (after : List Json)
    (adds : ofEntries (before ++ [entry]) = ofEntries before) :
    ofEntries (before ++ entry :: after) = ofEntries (before ++ after) := by
  rw [List.append_cons, ofEntries_append, adds, ← ofEntries_append]

/-- The list has the sites of all entries. -/
theorem isIn_ofEntries_iff {entries : List Json} {n : Node} :
    n.isIn (ofEntries entries) = true ↔ n.isIn (entries.filterMap entryNode?) = true := by
  rw [ofEntries, isIn_foldl_iff]
  simp [isIn]

/-! ### The first of equals -/

/-- The node that the entry at a place stands for, unless an earlier entry stands for it. -/
def firstAt? (entries : List Json) (place : Nat) : Option Node :=
  (entries[place]?.bind entryNode?).filter fun n =>
    !n.isIn ((entries.take place).filterMap entryNode?)

/-- **An entry counts if no earlier one was read at its site.** -/
theorem firstAt?_eq_some_iff {entries : List Json} {place : Nat} {n : Node} :
    firstAt? entries place = some n ↔
      (∃ entry, entries[place]? = some entry ∧ entryNode? entry = some n) ∧
      ∀ earlier ∈ entries.take place, ∀ m, entryNode? earlier = some m → m.site ≠ n.site := by
  have new : n.isIn ((entries.take place).filterMap entryNode?) = false ↔
      ∀ earlier ∈ entries.take place, ∀ m, entryNode? earlier = some m → m.site ≠ n.site := by
    rw [Bool.eq_false_iff, ne_eq, isIn_iff]
    simp only [List.mem_map, List.mem_filterMap, not_exists, not_and]
    exact ⟨fun none earlier mem m read => none m ⟨earlier, mem, read⟩,
      fun none m ⟨earlier, mem, read⟩ => none earlier mem m read⟩
  rw [firstAt?, Option.filter_eq_some_iff, Option.bind_eq_some_iff, Bool.not_eq_true', new]

/-- **The list holds the nodes of the entries that count**, in the order of the entries. -/
theorem ofEntries_eq (entries : List Json) :
    ofEntries entries = (List.range entries.length).filterMap (firstAt? entries) := by
  induction entries using List.reverseRecOn with
  | nil => rfl
  | append_singleton entries entry ih =>
    have before : ∀ place ∈ List.range entries.length,
        firstAt? (entries ++ [entry]) place = firstAt? entries place := by
      intro place mem
      have within := List.mem_range.1 mem
      rw [firstAt?, firstAt?, List.getElem?_append_left within,
        List.take_append_of_le_length (Nat.le_of_lt within)]
    have last : firstAt? (entries ++ [entry]) entries.length
        = (entryNode? entry).filter fun n => !n.isIn (ofEntries entries) := by
      have alike : (fun n : Node => !n.isIn (ofEntries entries))
          = fun n => !n.isIn (entries.filterMap entryNode?) :=
        funext fun n => congrArg Bool.not (Bool.eq_iff_iff.2 isIn_ofEntries_iff)
      rw [firstAt?, List.getElem?_concat_length, List.take_left, alike]
      rfl
    rw [List.length_append, List.length_singleton, List.range_succ, List.filterMap_append,
      List.filterMap_congr before, ← ih, ofEntries_concat, ← last,
      List.filterMap_eq_flatMap_toList _ [entries.length], List.flatMap_singleton]

/--
**Of the entries for one node the first is listed, and every other entry makes no difference.**

The list holds, in the order of the entries, the nodes of those that can be read and have no site
that an earlier one was read at; so no site is in it twice.  An entry that cannot be read may stand
anywhere, and an entry for a site that was read before may stand anywhere behind that, whatever its
keys: the list is the same without it.  Two lists that are joined give the first one's nodes, and
then those of the second that are not among them.
-/
theorem first_entries_listed :
    (∀ entries, ofEntries entries
      = (List.range entries.length).filterMap (firstAt? entries)) ∧
    (∀ entries place n, firstAt? entries place = some n ↔
      (∃ entry, entries[place]? = some entry ∧ entryNode? entry = some n) ∧
      ∀ earlier ∈ entries.take place, ∀ m, entryNode? earlier = some m → m.site ≠ n.site) ∧
    (∀ entries, Distinct (ofEntries entries)) ∧
    (∀ before entry after, entryNode? entry = none →
      ofEntries (before ++ entry :: after) = ofEntries (before ++ after)) ∧
    (∀ before entry after n, entryNode? entry = some n →
      (∃ earlier ∈ before, ∃ m, entryNode? earlier = some m ∧ m.site = n.site) →
      ofEntries (before ++ entry :: after) = ofEntries (before ++ after)) ∧
    ∀ entries more, ofEntries (entries ++ more)
      = ofEntries entries ++ outside (ofEntries more) (ofEntries entries) := by
  refine ⟨ofEntries_eq, fun _ _ _ => firstAt?_eq_some_iff,
    fun entries => (wellListed_ofEntries entries).distinct, ?_, ?_, ofEntries_append⟩
  · intro before entry after unread
    refine ofEntries_insert after ?_
    rw [ofEntries_concat, unread]
    exact List.append_nil _
  · rintro before entry after n read ⟨earlier, mem, m, first, same⟩
    obtain ⟨listed, within, site⟩ := exists_mem_of_entry mem first
    have old : n.isIn (ofEntries before) = true :=
      isIn_iff.2 (same ▸ site ▸ List.mem_map_of_mem within)
    refine ofEntries_insert after ?_
    rw [ofEntries_concat, read, Option.filter, old]
    exact List.append_nil _

/-- An entry for the site of `trialEntry` with another key. -/
def rotatedEntry (host : String) : Json :=
  (trialEntry host).insert "pubkey_ed25519" (.text (String.ofList (List.replicate 64 'c')))

/-- A node that has rotated its key is listed with the key that stands first. -/
theorem first_entries_listed_rotatedEntry :
    entryNode? .null = none ∧
    (∃ n m, entryNode? (rotatedEntry "10.0.0.1") = some n ∧
      entryNode? (trialEntry "10.0.0.1") = some m ∧ m.site = n.site ∧ m.key ≠ n.key) ∧
    ofEntries [trialEntry "10.0.0.1", .null, rotatedEntry "10.0.0.1", trialEntry "10.0.0.2"]
      = ofEntries [trialEntry "10.0.0.1", trialEntry "10.0.0.2"] ∧
    Distinct (ofEntries [trialEntry "10.0.0.1", trialEntry "10.0.0.2"]) ∧
    (ofEntries [trialEntry "10.0.0.1", trialEntry "10.0.0.2"]).length = 2 := by
  obtain ⟨-, -, distinct, unread, again, -⟩ := first_entries_listed
  have bare : entryNode? .null = none := rfl
  have rotated : ∃ n m, entryNode? (rotatedEntry "10.0.0.1") = some n ∧
      entryNode? (trialEntry "10.0.0.1") = some m ∧ m.site = n.site ∧ m.key ≠ n.key :=
    ⟨_, _, rfl, rfl, by decide +kernel, by decide +kernel⟩
  refine ⟨bare, rotated, ?_, distinct _, by decide +kernel⟩
  obtain ⟨n, m, read, first, same, -⟩ := rotated
  calc ofEntries [trialEntry "10.0.0.1", .null, rotatedEntry "10.0.0.1", trialEntry "10.0.0.2"]
      = ofEntries [trialEntry "10.0.0.1", rotatedEntry "10.0.0.1", trialEntry "10.0.0.2"] :=
        unread [trialEntry "10.0.0.1"] _ _ bare
    _ = ofEntries [trialEntry "10.0.0.1", trialEntry "10.0.0.2"] :=
        again [trialEntry "10.0.0.1"] _ [trialEntry "10.0.0.2"] n read
          ⟨_, List.mem_singleton_self _, m, first, same⟩

end OnionSwarm.Node

/-
Which hosts get into a list of nodes.

An entry names its host in one of two fields, with or without a scheme and with blanks around it.
Some hosts are refused because nothing can be reached at them.  They are looked for in the text of
the entry once its blanks are gone, and that is the host only where the text names no scheme.  So
the refusal is good for bare hosts, and a host that is refused by itself is taken when a scheme
stands in front of it (`Disguised`).  There is no other way past it.
-/
import OnionSwarm.Proofs.Node.Entry

namespace OnionSwarm.Node

/-! ### Addresses -/

/-- The schemes that an address may begin with. -/
def schemes : List String := ["http://", "https://"]

/-- The text is a scheme, and behind it the host. -/
def HasHost (text host : String) : Prop := ∃ scheme ∈ schemes, text = scheme ++ host

theorem hasScheme_iff_hasHost {text : String} : hasScheme text = true ↔ ∃ host, HasHost text host := by
  have begins (scheme : String) : scheme.toList <+: text.toList ↔ ∃ host, text = scheme ++ host := by
    constructor
    · rintro ⟨rest, form⟩
      exact ⟨String.ofList rest, String.toList_inj.1 (by simp [form])⟩
    · rintro ⟨host, rfl⟩
      rw [String.toList_append]
      exact List.prefix_append _ _
  rw [hasScheme_iff, begins, begins]
  simp only [HasHost, schemes, List.mem_cons, List.not_mem_nil, or_false, exists_eq_or_imp,
    exists_eq_left, exists_or]

/-- A text has one host at most, because neither scheme begins with the other. -/
theorem HasHost.unique {text host host' : String} (has : HasHost text host)
    (has' : HasHost text host') : host = host' := by
  obtain ⟨scheme, known, rfl⟩ := has
  obtain ⟨scheme', known', same⟩ := has'
  have texts := congrArg String.toList same
  rw [String.toList_append, String.toList_append] at texts
  simp only [schemes, List.mem_cons, List.not_mem_nil, or_false] at known known'
  rcases known with rfl | rfl <;> rcases known' with rfl | rfl
  · exact String.toList_inj.1 (List.append_cancel_left texts)
  · simp at texts
  · simp at texts
  · exact String.toList_inj.1 (List.append_cancel_left texts)

theorem hasHost_https (host : String) : HasHost ("https://" ++ host) host :=
  ⟨"https://", by decide, rfl⟩

/-- Nothing can be reached at the address of the node. -/
def Unroutable (n : Node) : Prop := ∃ host ∈ unroutable, HasHost n.address host

/-! ### Entries -/

/-- The text that an entry names its host with, under either name and without the blanks at its
ends. -/
def hostText? (entry : Json) : Option String :=
  ((entry.get? "public_ip").or (entry.get? "ip")).bind fun spelled => spelled.asText?.map Text.trim

/-- The entry names a scheme, and behind it a host that nothing can be reached at. -/
def Disguised (entry : Json) : Prop :=
  ∃ text, hostText? entry = some text ∧ ∃ host ∈ unroutable, HasHost text host

/-- The other fields that a node is made of can be read. -/
def Readable (entry : Json) : Prop :=
  (entryPort? entry).isSome ∧ (entryKey? "pubkey_ed25519" entry).isSome ∧
    (entryKey? "pubkey_x25519" entry).isSome

theorem entryHost?_eq_some_iff {entry : Json} {text : String} :
    entryHost? entry = some text ↔ hostText? entry = some text ∧ text ∉ unroutable := by
  have chain : entryHost? entry = (hostText? entry).bind
      fun text => if text ∈ unroutable then none else some text := by
    simp only [entryHost?, hostText?, Option.bind_eq_bind, Option.bind_assoc]
  rw [chain, Option.bind_eq_some_iff]
  constructor
  · rintro ⟨found, named, checked⟩
    split at checked
    · cases checked
    · obtain rfl := Option.some.inj checked
      exact ⟨named, ‹_›⟩
  · rintro ⟨named, routable⟩
    exact ⟨text, named, if_neg routable⟩

theorem isSome_entryNode?_iff {entry : Json} :
    (entryNode? entry).isSome ↔
      (∃ text, hostText? entry = some text ∧ text ∉ unroutable) ∧ Readable entry := by
  simp only [← entryHost?_eq_some_iff, Readable, Option.isSome_iff_exists, entryNode?,
    Option.bind_eq_bind, Option.bind_eq_some_iff]
  constructor
  · rintro ⟨n, host, named, port, ported, ed25519, first, x25519, second, -⟩
    exact ⟨⟨host, named⟩, ⟨port, ported⟩, ⟨ed25519, first⟩, ⟨x25519, second⟩⟩
  · rintro ⟨⟨host, named⟩, ⟨port, ported⟩, ⟨ed25519, first⟩, ⟨x25519, second⟩⟩
    exact ⟨_, host, named, port, ported, ed25519, first, x25519, second, rfl⟩

/-- The address of a node is what its entry says, with a scheme put in front if it names none. -/
theorem address_of_entry {entry : Json} {n : Node} (read : entryNode? entry = some n) :
    ∃ text, hostText? entry = some text ∧ text ∉ unroutable ∧
      n.address = if hasScheme text then text else "https://" ++ text := by
  simp only [entryNode?, Option.bind_eq_bind, Option.bind_eq_some_iff] at read
  obtain ⟨text, named, _, -, _, -, _, -, made⟩ := read
  obtain ⟨named, routable⟩ := entryHost?_eq_some_iff.1 named
  exact ⟨text, named, routable, (congrArg address (Option.some.inj made)).symm⟩

/-- **A node has an unroutable host exactly if its entry disguised it.** -/
theorem unroutable_iff_of_entry {entry : Json} {n : Node} (read : entryNode? entry = some n) :
    n.Unroutable ↔ Disguised entry := by
  obtain ⟨text, named, routable, address⟩ := address_of_entry read
  have disguised : Disguised entry ↔ ∃ host ∈ unroutable, HasHost text host := by
    simp only [Disguised, named, Option.some.injEq, exists_eq_left']
  rw [disguised, Unroutable, address]
  by_cases scheme : hasScheme text = true
  · rw [if_pos scheme]
  · rw [if_neg scheme]
    constructor
    · rintro ⟨host, isUnroutable, has⟩
      rw [has.unique (hasHost_https text)] at isUnroutable
      exact absurd isUnroutable routable
    · rintro ⟨host, -, has⟩
      exact absurd (hasScheme_iff_hasHost.2 ⟨host, has⟩) scheme

/-- A disguised host is taken if the other fields can be read. -/
theorem isSome_entryNode?_of_disguised {entry : Json} (disguised : Disguised entry) :
    (entryNode? entry).isSome ↔ Readable entry := by
  obtain ⟨text, named, host, -, has⟩ := disguised
  have bare : ∀ text ∈ unroutable, hasScheme text = false := by decide
  have routable : text ∉ unroutable := by
    intro mem
    have scheme := hasScheme_iff_hasHost.2 ⟨host, has⟩
    rw [bare text mem] at scheme
    cases scheme
  rw [isSome_entryNode?_iff]
  exact and_iff_right ⟨text, named, routable⟩

/-! ### Lists -/

/-- **Unroutable hosts get into a list in disguise, and in no other way.**

Every node of the list has one host.  A bare host that is unroutable is refused, whichever field
names it and whatever blanks are around it.  A node of an entry has an unroutable host if and only
if the entry names a scheme in front of that host, and then the entry is taken whenever its other
fields can be read.  So a list holds a node with an unroutable host if and only if one of its
entries is such a one. -/
theorem unroutable_iff_disguised (entries : List Json) :
    (∀ n ∈ ofEntries entries, ∃! host, HasHost n.address host) ∧
    (∀ entry text, hostText? entry = some text → text ∈ unroutable → entryNode? entry = none) ∧
    (∀ entry n, entryNode? entry = some n → (n.Unroutable ↔ Disguised entry)) ∧
    ((∃ n ∈ ofEntries entries, n.Unroutable) ↔
      ∃ entry ∈ entries, Disguised entry ∧ Readable entry) := by
  refine ⟨fun n mem => ?_, fun entry text named isUnroutable => ?_,
    fun entry n read => unroutable_iff_of_entry read, ?_⟩
  · have formed := (wellListed_ofEntries entries).each n mem
    obtain ⟨host, has⟩ := hasScheme_iff_hasHost.1 (hasScheme_iff.2 formed.address)
    exact ⟨host, has, fun other has' => has'.unique has⟩
  · rw [← Option.not_isSome_iff_eq_none, isSome_entryNode?_iff]
    rintro ⟨⟨other, named', routable⟩, -⟩
    rw [named] at named'
    exact routable (Option.some.inj named' ▸ isUnroutable)
  · constructor
    · rintro ⟨n, mem, isUnroutable⟩
      obtain ⟨entry, within, read⟩ := exists_entry_of_mem mem
      have disguised := (unroutable_iff_of_entry read).1 isUnroutable
      refine ⟨entry, within, disguised, (isSome_entryNode?_of_disguised disguised).1 ?_⟩
      rw [read]
      rfl
    · rintro ⟨entry, within, disguised, readable⟩
      obtain ⟨n, read⟩ :=
        Option.isSome_iff_exists.1 ((isSome_entryNode?_of_disguised disguised).2 readable)
      -- the list may hold an earlier node of the same site, which has the same host
      obtain ⟨m, mem, same⟩ := exists_mem_of_entry within read
      have address : m.address = n.address := congrArg Site.address same
      refine ⟨m, mem, ?_⟩
      rw [Unroutable, address]
      exact (unroutable_iff_of_entry read).2 disguised

/-- An entry for a node at some host. -/
def trialEntry (host : String) : Json :=
  .ofMembers
    [("public_ip", .text host), ("storage_port", .nat 22001),
     ("pubkey_ed25519", .text (String.ofList (List.replicate 64 'a'))),
     ("pubkey_x25519", .text (String.ofList (List.replicate 64 'b')))]

/-- A host is refused with blanks around it, and taken in disguise. -/
theorem unroutable_iff_disguised_trialEntries :
    hostText? (trialEntry " 0.0.0.0 ") = some "0.0.0.0" ∧ "0.0.0.0" ∈ unroutable ∧
    entryNode? (trialEntry " 0.0.0.0 ") = none ∧
    Disguised (trialEntry " http://0.0.0.0") ∧ Readable (trialEntry " http://0.0.0.0") ∧
    ∃ n ∈ ofEntries [trialEntry " 0.0.0.0 ", trialEntry " http://0.0.0.0"], n.Unroutable := by
  have bare : hostText? (trialEntry " 0.0.0.0 ") = some "0.0.0.0" := by decide +kernel
  have disguised : Disguised (trialEntry " http://0.0.0.0") :=
    ⟨"http://0.0.0.0", by decide +kernel, "0.0.0.0", by decide, "http://", by decide, rfl⟩
  have readable : Readable (trialEntry " http://0.0.0.0") := by
    refine ⟨?_, ?_, ?_⟩ <;> decide +kernel
  obtain ⟨-, refused, -, listed⟩ :=
    unroutable_iff_disguised [trialEntry " 0.0.0.0 ", trialEntry " http://0.0.0.0"]
  exact ⟨bare, by decide, refused _ _ bare (by decide), disguised, readable,
    listed.2 ⟨_, by simp, disguised, readable⟩⟩

/-- A host that nothing can be reached at is listed when its scheme is named. -/
theorem schemed_host_listed :
    entryNode? (trialEntry "0.0.0.0") = none ∧
    ∃ n, entryNode? (trialEntry "https://0.0.0.0") = some n ∧
      ofEntries [trialEntry "https://0.0.0.0"] = [n] ∧ HasHost n.address "0.0.0.0" ∧
      "0.0.0.0" ∈ unroutable := by
  refine ⟨by decide +kernel, _, rfl, rfl, ⟨"https://", by decide, ?_⟩, by decide⟩
  decide +kernel

end OnionSwarm.Node

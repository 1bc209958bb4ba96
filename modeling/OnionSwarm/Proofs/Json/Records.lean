/-
A record is read back from the members that it writes.

A record is put together from its fields one by one, and so is what is said of it here: some members
hold a value of the record (`Record.Holds`) if they stand in the order of its fields, each of them
once, and what is made of them in the end is that value.  One field is held by one member, and what
holds the fields of two records holds them together, because no member is taken for a field of the
other record.  Whether the names do differ is asked only at the end, where all of them are known.

A choice between kinds of record writes the kind first.  It has to be the only member of that name,
and what stands beside it has to be a value that the reader of values would make
(`Choice.read_written`).
-/
import Mathlib.Tactic.Common
import OnionSwarm.Json.Record
import OnionSwarm.Proofs.Json.ReadBack

namespace OnionSwarm.Json

open Text.Decimal (last64)

/-! ### Numbers and lists -/

theorem fits_nat {n : Nat} (small : n ≤ last64) : (Number.int n).Fits := by
  rw [last64] at small
  constructor <;> omega

theorem asNat_written {n last : Nat} (small : n ≤ last) (wanted : String) :
    (written (nat n)).asNat last wanted = .ok n := by
  rw [nat, written, Written.asNat, if_pos (by omega)]
  rfl

theorem legibleItems_map {α : Type} {toJson : α → Json} {xs : List α}
    (legible : ∀ x ∈ xs, Legible (toJson x)) : LegibleItems (xs.map toJson) := by
  induction xs with
  | nil => trivial
  | cons x xs ih =>
    exact ⟨legible x (by simp), ih fun y mem => legible y (List.mem_cons_of_mem x mem)⟩

theorem keptItems_map {α : Type} {toJson : α → Json} {levels : Nat} {xs : List α}
    (kept : ∀ x ∈ xs, Kept levels (toJson x)) : KeptItems levels (xs.map toJson) := by
  induction xs with
  | nil => trivial
  | cons x xs ih =>
    exact ⟨kept x (by simp), ih fun y mem => kept y (List.mem_cons_of_mem x mem)⟩

theorem mapM_writtenItems {α : Type} {toJson : α → Json} {item : Written → Except ReadError α}
    {xs : List α} (read : ∀ x ∈ xs, item (written (toJson x)) = .ok x) :
    (writtenItems (xs.map toJson)).mapM item = .ok xs := by
  induction xs with
  | nil => rfl
  | cons x xs ih =>
    rw [List.map_cons, writtenItems, List.mapM_cons, read x (by simp),
      ih fun y mem => read y (List.mem_cons_of_mem x mem)]
    rfl

/-! ### Records -/

namespace Record

variable {α β : Type}

/-- Some members are taken one after another, and all of them are fields of the record. -/
inductive Takes (r : Record α) : r.State → List (String × Written) → r.State → Prop where
  | none (s : r.State) : Takes r s [] s
  | next {s t u : r.State} {name : String} {w : Written} {ms : List (String × Written)} :
    name ∈ r.names → r.take name w s = .ok t → Takes r t ms u → Takes r s ((name, w) :: ms) u

/-- The members hold a value of the record: they stand in the order of its fields, and the value is
what is made of them. -/
structure Holds (r : Record α) (ms : List (String × Written)) (a : α) : Prop where
  names : ms.map Prod.fst = r.names
  made : r.names.Nodup → ∃ s, r.Takes r.start ms s ∧ r.finish s = .ok a

theorem Takes.append {r : Record α} {s t u : r.State} {ms ns : List (String × Written)}
    (first : r.Takes s ms t) (second : r.Takes t ns u) : r.Takes s (ms ++ ns) u := by
  induction first with
  | none => exact second
  | next mem taken _ ih => exact .next mem taken (ih second)

theorem holds_of (a : α) : (of a).Holds [] a :=
  ⟨rfl, fun _ => ⟨(of a).start, .none _, rfl⟩⟩

theorem holds_field {name : String} {absent : Except ReadError α}
    {reader : Written → Except ReadError α} {w : Written} {a : α} (read : reader w = .ok a) :
    (field name absent reader).Holds [(name, w)] a := by
  have taken : (field name absent reader).take name w none = .ok (some a) := by
    simp only [field, read]
    rfl
  exact ⟨rfl, fun _ => ⟨some a, .next (List.mem_singleton.2 rfl) taken (.none _), rfl⟩⟩

section Apply

variable {f : Record (α → β)} {r : Record α} {ms ns : List (String × Written)}

/-- Fields of the first record leave what is known of the second. -/
theorem Takes.left {s t : f.State} (takes : f.Takes s ms t) (u : r.State) :
    (apply f r).Takes (s, u) ms (t, u) := by
  induction takes with
  | none => exact .none _
  | next mem taken _ ih =>
    refine .next (List.mem_append_left _ mem) ?_ ih
    simp only [apply, if_pos mem, taken]
    rfl

/-- Fields of the second record leave what is known of the first, which has no such field. -/
theorem Takes.right {t u : r.State} (takes : r.Takes t ms u)
    (others : ∀ name ∈ ms.map Prod.fst, name ∉ f.names) (s : f.State) :
    (apply f r).Takes (s, t) ms (s, u) := by
  induction takes with
  | none => exact .none _
  | next mem taken _ ih =>
    have other := others _ List.mem_cons_self
    refine .next (List.mem_append_right _ mem) ?_
      (ih fun name mem => others name (List.mem_cons_of_mem _ mem))
    simp only [apply, if_neg other, taken]
    rfl

theorem Holds.apply {make : α → β} {a : α} (first : f.Holds ms make) (second : r.Holds ns a) :
    (Record.apply f r).Holds (ms ++ ns) (make a) := by
  refine ⟨?_, fun distinct => ?_⟩
  · rw [List.map_append, first.names, second.names]
    rfl
  · obtain ⟨nodup, nodup', apart⟩ := List.nodup_append.1 distinct
    obtain ⟨s, taken, made⟩ := first.made nodup
    obtain ⟨t, taken', made'⟩ := second.made nodup'
    have others : ∀ name ∈ ns.map Prod.fst, name ∉ f.names := by
      intro name mem mem'
      rw [second.names] at mem
      exact apart name mem' name mem rfl
    refine ⟨(s, t), (taken.left r.start).append (taken'.right others s), ?_⟩
    simp only [Record.apply, made, made']
    rfl

end Apply

/-- A record with one field more holds one member more. -/
theorem Holds.field {f : Record (α → β)} {ms : List (String × Written)} {make : α → β}
    (holds : f.Holds ms make) {name : String} {absent : Except ReadError α}
    {reader : Written → Except ReadError α} {w : Written} {a : α} (read : reader w = .ok a) :
    (Record.apply f (Record.field name absent reader)).Holds (ms ++ [(name, w)]) (make a) :=
  holds.apply (holds_field read)

theorem takeMembers_of_takes {r : Record α} {s t : r.State} {ms : List (String × Written)}
    (takes : r.Takes s ms t) {seen : List String} (distinct : (ms.map Prod.fst).Nodup)
    (unseen : ∀ name ∈ ms.map Prod.fst, name ∉ seen) :
    r.takeMembers seen s (ms.map fun m => (some m.1, m.2)) = .ok t := by
  induction takes generalizing seen with
  | none => rfl
  | next mem taken _ ih =>
    rw [List.map_cons, List.nodup_cons] at distinct
    have new := unseen _ List.mem_cons_self
    simp only [List.map_cons, takeMembers, if_pos mem, if_neg new, taken]
    refine ih distinct.2 fun name mem => ?_
    rw [List.mem_cons, not_or]
    exact ⟨fun same => distinct.1 (same ▸ mem), unseen name (List.mem_cons_of_mem _ mem)⟩

/-- **A record is read from the members that hold a value of it.** -/
theorem read_of_holds {r : Record α} {ms : List (String × Written)} {a : α} (holds : r.Holds ms a)
    (distinct : (ms.map Prod.fst).Nodup) (what : String) :
    r.read what (.object (ms.map fun m => (some m.1, m.2)) none) = .ok a := by
  obtain ⟨s, taken, made⟩ := holds.made (holds.names ▸ distinct)
  have found : r.takeMembers [] r.start (ms.map fun m => (some m.1, m.2)) = .ok s :=
    takeMembers_of_takes taken distinct fun _ _ => nofun
  simp only [read, found, unlessStopped, made]

end Record

theorem writtenMembers_eq (ms : List (String × Json)) :
    writtenMembers ms = ms.map fun m => (some m.1, written m.2) := by
  induction ms with
  | nil => rfl
  | cons m ms ih => rw [writtenMembers, ih, List.map_cons]

/-- A record is read from the text of an object whose members hold a value of it. -/
theorem Record.read_written {α : Type} {r : Record α} {ms : List (String × Json)} {a : α}
    (holds : r.Holds (ms.map fun m => (m.1, written m.2)) a)
    (distinct : (ms.map Prod.fst).Nodup) (what : String) :
    r.read what (written (.object ms)) = .ok a := by
  have names : (ms.map fun m => (m.1, written m.2)).map Prod.fst = ms.map Prod.fst := by
    rw [List.map_map]
    rfl
  have read := read_of_holds holds (names ▸ distinct) what
  rw [List.map_map] at read
  rw [written, writtenMembers_eq]
  exact read

/-! ### Choices -/

namespace Choice

variable {κ : Type}

/-- Behind the kind the reader of a choice passes over what the reader of values accepts. -/
theorem members_written (c : Choice κ) {levels : Nat} (k : κ) {ms : List (String × Json)}
    (others : "kind" ∉ ms.map Prod.fst) (kept : KeptMembers levels ms) :
    c.members levels (some k) (writtenMembers ms) = .ok (some k, writtenMembers ms) := by
  induction ms with
  | nil => rfl
  | cons m ms ih =>
    rw [List.map_cons, List.mem_cons, not_or] at others
    have other : ¬ m.1 = "kind" := fun same => others.1 same.symm
    simp only [writtenMembers, members, if_neg other, value?_written m.2 kept.1,
      ih others.2 kept.2]
    rfl

/-- **A choice is read from the text of an object that begins with the kind**: the kind, and what is
left of the object. -/
theorem read_written {c : Choice κ} {depth : Nat} {name : String} {k : κ}
    {ms : List (String × Json)} (known : c.kinds.lookup name = some k)
    (others : "kind" ∉ ms.map Prod.fst) (kept : KeptMembers (deepest - depth - 1) ms) :
    c.read depth (written (.object (("kind", .text name) :: ms)))
      = .ok (k, written (.object ms)) := by
  have rest := members_written c k others kept
  simp only [written, writtenMembers, read, members, kind, known, if_true, rest, unlessStopped]
  rfl

end Choice

end OnionSwarm.Json

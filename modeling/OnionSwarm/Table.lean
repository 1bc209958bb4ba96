/-
Tables: finitely many keys, each with one value.

A table is looked at through `get?`, and each operation says what it does to that view.  The order
of the entries means nothing.
-/

namespace OnionSwarm

/-- A finite map from keys to values. -/
structure Table (κ α : Type) where
  entries : List (κ × α)
  nodup : (entries.map Prod.fst).Nodup

namespace Table

variable {κ α : Type}

/-- The table without keys. -/
def empty : Table κ α := ⟨[], List.nodup_nil⟩

instance : Inhabited (Table κ α) := ⟨empty⟩

/-- All keys. -/
def keys (t : Table κ α) : List κ := t.entries.map Prod.fst

variable [DecidableEq κ]

/-- The value of a key in a list of entries. -/
def find (k : κ) : List (κ × α) → Option α
  | [] => none
  | (k', a) :: rest => if k' = k then some a else find k rest

/-- The value of a key. -/
def get? (t : Table κ α) (k : κ) : Option α := find k t.entries

/-- Removes a key. -/
def erase (t : Table κ α) (k : κ) : Table κ α :=
  ⟨t.entries.filter fun e => e.1 ≠ k, t.nodup.sublist (List.filter_sublist.map _)⟩

/-- Gives a key a value. -/
def insert (t : Table κ α) (k : κ) (a : α) : Table κ α :=
  ⟨(k, a) :: (t.erase k).entries, by
    refine List.nodup_cons.2 ⟨?_, (t.erase k).nodup⟩
    simp [erase]⟩

/-- Has the key a value? -/
def contains (t : Table κ α) (k : κ) : Bool := (t.get? k).isSome

/-- The table of a list of entries; of equal keys the last counts. -/
def ofList (entries : List (κ × α)) : Table κ α :=
  entries.foldl (fun t e => t.insert e.1 e.2) empty

@[simp] theorem get?_empty (k : κ) : (empty : Table κ α).get? k = none := rfl

theorem find_filter_ne (entries : List (κ × α)) (k k' : κ) :
    find k' (entries.filter fun e => e.1 ≠ k) = if k' = k then none else find k' entries := by
  induction entries with
  | nil => simp [find]
  | cons e rest ih =>
    obtain ⟨k₁, a⟩ := e
    by_cases gone : k₁ = k
    · subst gone
      rw [List.filter_cons_of_neg (by simp), ih]
      by_cases h : k' = k₁
      · simp [h]
      · simp [h, find, Ne.symm h]
    · rw [List.filter_cons_of_pos (by simpa using gone)]
      by_cases h : k' = k
      · subst h; simpa [find, gone] using ih
      · simp only [find, if_neg h] at ih ⊢
        rw [ih]

theorem get?_erase (t : Table κ α) (k k' : κ) :
    (t.erase k).get? k' = if k' = k then none else t.get? k' :=
  find_filter_ne t.entries k k'

theorem get?_insert (t : Table κ α) (k k' : κ) (a : α) :
    (t.insert k a).get? k' = if k' = k then some a else t.get? k' := by
  have h := get?_erase t k k'
  by_cases hk : k' = k
  · simp [get?, insert, find, hk]
  · have hk' : ¬ k = k' := fun e => hk e.symm
    simpa [get?, insert, find, hk, hk'] using h

@[simp] theorem get?_insert_self (t : Table κ α) (k : κ) (a : α) :
    (t.insert k a).get? k = some a := by
  simp [get?_insert]

theorem mem_keys_iff (t : Table κ α) (k : κ) : k ∈ t.keys ↔ ∃ a, t.get? k = some a := by
  unfold keys get?
  induction t.entries with
  | nil => simp [find]
  | cons e rest ih =>
    obtain ⟨k₁, a⟩ := e
    by_cases h : k₁ = k
    · subst h; simp [find]
    · simp [find, h, Ne.symm h, ih]

theorem find_eq_some_iff {entries : List (κ × α)} (nodup : (entries.map Prod.fst).Nodup) (k : κ)
    (a : α) : find k entries = some a ↔ (k, a) ∈ entries := by
  induction entries with
  | nil => simp [find]
  | cons e rest ih =>
    obtain ⟨k₁, a₁⟩ := e
    rw [List.map_cons, List.nodup_cons] at nodup
    by_cases h : k₁ = k
    · subst h
      have absent : (k₁, a) ∉ rest := fun mem => nodup.1 (List.mem_map.2 ⟨_, mem, rfl⟩)
      simp [find, absent, eq_comm]
    · simp [find, h, Ne.symm h, ih nodup.2]

theorem get?_eq_some_iff (t : Table κ α) (k : κ) (a : α) :
    t.get? k = some a ↔ (k, a) ∈ t.entries :=
  find_eq_some_iff t.nodup k a

end Table
end OnionSwarm

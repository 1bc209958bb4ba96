/-
Scratch memory of one call, kept through its repetitions.

Each key has values of a type of its own; a key holds at most one.
-/

namespace OnionSwarm

/-- Values under keys, each key with its own type of value. -/
structure Scratch (Key : Type) (Value : Key → Type) where
  entries : List ((k : Key) × Value k)

namespace Scratch

variable {Key : Type} {Value : Key → Type} [DecidableEq Key]

/-- Nothing noted. -/
def empty : Scratch Key Value := ⟨[]⟩

/-- The first value under a key in a list of entries. -/
def find? (k : Key) : List ((k : Key) × Value k) → Option (Value k)
  | [] => none
  | ⟨k', v⟩ :: rest => if h : k' = k then some (h ▸ v) else find? k rest

/-- The value under a key. -/
def get? (s : Scratch Key Value) (k : Key) : Option (Value k) := find? k s.entries

/-- Is there a value under the key? -/
def contains (s : Scratch Key Value) (k : Key) : Bool := (s.get? k).isSome

/-- Takes the value away from a key. -/
def erase (s : Scratch Key Value) (k : Key) : Scratch Key Value :=
  ⟨s.entries.filter fun e => e.1 != k⟩

/-- Puts a value under a key, in place of one that is there. -/
def set (s : Scratch Key Value) (k : Key) (v : Value k) : Scratch Key Value :=
  ⟨⟨k, v⟩ :: (s.erase k).entries⟩

/-- How many keys have a value. -/
def size (s : Scratch Key Value) : Nat := s.entries.length

/-- The memory in logs: only how much there is. -/
def render (s : Scratch Key Value) : String :=
  "ExecutorContext \x7b entries: " ++ toString s.size ++ " \x7d"

theorem get?_set (s : Scratch Key Value) (k : Key) (v : Value k) : (s.set k v).get? k = some v := by
  simp [get?, set, find?]

theorem find?_filter (entries : List ((k : Key) × Value k)) (k k' : Key) :
    find? k' (entries.filter fun e => e.1 != k) = if k' = k then none else find? k' entries := by
  induction entries with
  | nil => simp [find?]
  | cons e rest ih =>
    obtain ⟨k₁, v⟩ := e
    by_cases gone : k₁ = k
    · subst gone
      rw [List.filter_cons_of_neg (by simp), ih]
      by_cases same : k' = k₁
      · simp [same]
      · simp [same, find?, Ne.symm same]
    · rw [List.filter_cons_of_pos (by simpa using gone), find?, ih]
      by_cases same : k₁ = k'
      · subst same
        simp [find?, gone]
      · simp [find?, same]

theorem get?_erase (s : Scratch Key Value) (k k' : Key) :
    (s.erase k).get? k' = if k' = k then none else s.get? k' := find?_filter s.entries k k'

theorem get?_set_of_ne (s : Scratch Key Value) {k k' : Key} (v : Value k) (ne : k' ≠ k) :
    (s.set k v).get? k' = s.get? k' := by
  rw [set, get?, find?, dif_neg (Ne.symm ne)]
  exact (get?_erase s k k').trans (if_neg ne)

end Scratch
end OnionSwarm

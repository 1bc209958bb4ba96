/-
Random choices.

A choice takes the next number of a source and reduces it to the range that is wanted.  The source
is any sequence of numbers: a statement about all sources is a statement about all choices, and
nothing else about chance is ever used.
-/

namespace OnionSwarm

/-- A source of random numbers, and how many of them were used. -/
structure Dice where
  source : Nat → Nat
  used : Nat

namespace Dice

/-- Dice that always show zero. -/
def zero : Dice := ⟨fun _ => 0, 0⟩

instance : Inhabited Dice := ⟨zero⟩

/-- A number of 64 bits in which every bit depends on all bits of `x`. -/
def mix (x : UInt64) : UInt64 :=
  let x := (x ^^^ (x >>> 30)) * 0xBF58476D1CE4E5B9
  let x := (x ^^^ (x >>> 27)) * 0x94D049BB133111EB
  x ^^^ (x >>> 31)

/-- Dice that show the well mixed multiples of an odd number, starting at a seed. -/
def ofSeed (seed : Nat) : Dice :=
  ⟨fun i => (mix (UInt64.ofNat (seed + i + 1) * 0x9E3779B97F4A7C15)).toNat, 0⟩

/-- A number below `n`, or zero if there is none. -/
def roll (d : Dice) (n : Nat) : Nat × Dice :=
  (d.source d.used % n, { d with used := d.used + 1 })

/-- A number from `low` to `high`, both included; `low` if the range is empty. -/
def between (d : Dice) (low high : Nat) : Nat × Dice :=
  if low < high then
    let (n, d) := d.roll (high - low + 1)
    (low + n, d)
  else (low, d)

/-- One element of a list; nothing of an empty one. -/
def pick? {α : Type} (d : Dice) (xs : List α) : Option α × Dice :=
  if xs.isEmpty then (none, d)
  else
    let (i, d) := d.roll xs.length
    (xs[i]?, d)

/-- `count` elements of a list, each place at most once; all of them if there are fewer. -/
def sample {α : Type} (d : Dice) : (count : Nat) → List α → List α × Dice
  | 0, _ => ([], d)
  | _, [] => ([], d)
  | count + 1, x :: xs =>
    let (i, d) := d.roll (xs.length + 1)
    let chosen := (x :: xs)[i]?.getD x
    let (more, d) := sample d count ((x :: xs).eraseIdx i)
    (chosen :: more, d)

theorem roll_lt (d : Dice) {n : Nat} (h : 0 < n) : (d.roll n).1 < n := Nat.mod_lt _ h

theorem mem_of_pick? {α : Type} {d : Dice} {xs : List α} {x : α} (h : (d.pick? xs).1 = some x) :
    x ∈ xs := by
  unfold pick? at h
  split at h
  · simp at h
  · exact List.mem_of_getElem? h

end Dice
end OnionSwarm

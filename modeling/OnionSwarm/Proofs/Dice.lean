/-
What a random choice can be.

Whatever numbers the source shows, a sample takes each place of the list at most once, and takes as
many as it is asked for if there are that many.  Nothing more is true of every source, and nothing
more is needed.
-/
import Mathlib.Tactic.Common
import Mathlib.Data.List.Perm.Subperm
import OnionSwarm.Dice

namespace OnionSwarm.Dice

variable {α : Type}

/-- Something is chosen, if there is anything to choose from. -/
theorem exists_pick? (d : Dice) {xs : List α} (nonempty : xs ≠ []) :
    ∃ x, (d.pick? xs).1 = some x := by
  have inside : (d.roll xs.length).1 < xs.length := d.roll_lt (List.length_pos_of_ne_nil nonempty)
  refine ⟨xs[(d.roll xs.length).1], ?_⟩
  rw [pick?, if_neg (by simpa using nonempty)]
  exact List.getElem?_eq_getElem inside

/-- A sample goes on with the list without the element that was chosen. -/
theorem sample_cons (d : Dice) (count : Nat) (x : α) (xs : List α) :
    ∃ i, ∃ inside : i < (x :: xs).length, ∃ d' : Dice, (d.sample (count + 1) (x :: xs)).1
      = (x :: xs)[i] :: (d'.sample count ((x :: xs).eraseIdx i)).1 := by
  have inside : (d.roll (xs.length + 1)).1 < (x :: xs).length := d.roll_lt (by omega)
  refine ⟨(d.roll (xs.length + 1)).1, inside, (d.roll (xs.length + 1)).2, ?_⟩
  rw [sample]
  simp only [List.getElem?_eq_getElem inside, Option.getD_some]

theorem length_sample (d : Dice) (count : Nat) (xs : List α) :
    (d.sample count xs).1.length = min count xs.length := by
  induction count generalizing d xs with
  | zero => simp [sample]
  | succ count ih =>
    cases xs with
    | nil => simp [sample]
    | cons x xs =>
      obtain ⟨i, inside, d', form⟩ := sample_cons d count x xs
      have left := List.length_eraseIdx_of_lt inside
      rw [form, List.length_cons, ih, left, List.length_cons]
      omega

/-- **A sample holds no place of the list twice.** -/
theorem sample_subperm (d : Dice) (count : Nat) (xs : List α) :
    (d.sample count xs).1.Subperm xs := by
  induction count generalizing d xs with
  | zero => exact List.nil_subperm
  | succ count ih =>
    cases xs with
    | nil => exact List.nil_subperm
    | cons x xs =>
      obtain ⟨i, inside, d', form⟩ := sample_cons d count x xs
      have rest := ih d' ((x :: xs).eraseIdx i)
      rw [form]
      exact ((List.subperm_cons _).2 rest).trans
        (List.getElem_cons_eraseIdx_perm inside).subperm

end OnionSwarm.Dice

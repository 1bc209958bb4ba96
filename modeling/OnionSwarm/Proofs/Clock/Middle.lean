/-
How far the estimate of the time can be off.

The middle one of some times lies in a range as soon as fewer than half of them lie outside it: all
others together fill neither the places up to the middle nor those from the middle on
(`middle_within`).  An honest answer stands for a time near the right one, because half of its round
trip is taken off, and the time that the node gave is at most the whole round trip behind the
question (`Honest.near`).  So a minority of dishonest answers, whatever they say, cannot move the
estimate further than an honest answer can be off.

All this is about numbers of any size.  In 64 bits the same holds if the sums of the honest answers
fit; those of the others may lose their upper part.
-/
import Mathlib.Data.List.Perm.Basic
import Mathlib.Tactic.Common
import OnionSwarm.Clock.Sample

namespace OnionSwarm.Clock

/-! ### The middle one of some times -/

/-- How many times lie outside a range. -/
def outliers (low high : Nat) (times : List Nat) : Nat :=
  times.countP fun t => decide ¬ (low ≤ t ∧ t ≤ high)

section

variable {low high : Nat} {times part : List Nat}

theorem length_le_outliers (sub : part.Sublist times)
    (outside : ∀ t ∈ part, t < low ∨ high < t) : part.length ≤ outliers low high times := by
  have all : outliers low high part = part.length := by
    refine List.countP_eq_length.2 fun t mem => decide_eq_true ?_
    have := outside t mem
    omega
  rw [← all]
  exact sub.countP_le

/-- If a time in an ordered list is too early, so are all before it. -/
theorem lt_outliers_of_early (order : times.Pairwise (· ≤ ·)) {i : Nat} (inside : i < times.length)
    (early : times[i] < low) : i < outliers low high times := by
  have upTo : (times.take (i + 1)).length ≤ outliers low high times := by
    refine length_le_outliers (List.take_sublist _ _) fun t mem => .inl ?_
    obtain ⟨j, before, rfl⟩ := List.getElem_of_mem mem
    rw [List.length_take] at before
    rw [List.getElem_take]
    rcases Nat.lt_or_ge j i with less | same
    · have := List.pairwise_iff_getElem.1 order j i (by omega) inside less
      omega
    · have : j = i := by omega
      subst this
      exact early
  rw [List.length_take] at upTo
  omega

/-- If a time in an ordered list is too late, so are all after it. -/
theorem le_outliers_of_late (order : times.Pairwise (· ≤ ·)) {i : Nat} (inside : i < times.length)
    (late : high < times[i]) : times.length - i ≤ outliers low high times := by
  have onward : (times.drop i).length ≤ outliers low high times := by
    refine length_le_outliers (List.drop_sublist _ _) fun t mem => .inr ?_
    obtain ⟨j, after, rfl⟩ := List.getElem_of_mem mem
    rw [List.length_drop] at after
    rw [List.getElem_drop]
    rcases Nat.eq_zero_or_pos j with rfl | more
    · exact late
    · have := List.pairwise_iff_getElem.1 order i (i + j) inside (by omega) (by omega)
      omega
  rwa [List.length_drop] at onward

theorem pairwise_mergeSort (times : List Nat) :
    (times.mergeSort (· ≤ ·)).Pairwise (· ≤ ·) := by
  have order : (times.mergeSort (· ≤ ·)).Pairwise fun a b => decide (a ≤ b) = true :=
    List.pairwise_mergeSort (fun a b c => by simpa using Nat.le_trans)
      (fun a b => by simpa using Nat.le_total a b) times
  simpa only [decide_eq_true_eq] using order

/-- **The middle one lies in every range that fewer than half of the times are outside of.** -/
theorem middle_within (nonempty : times ≠ [])
    (few : outliers low high times ≤ (times.length - 1) / 2) :
    ∃ m, middle? times = some m ∧ low ≤ m ∧ m ≤ high := by
  have perm := List.mergeSort_perm times (· ≤ ·)
  have order := pairwise_mergeSort times
  have length := perm.length_eq
  have positive := List.length_pos_of_ne_nil nonempty
  have inside : times.length / 2 < (times.mergeSort (· ≤ ·)).length := by omega
  have total : outliers low high (times.mergeSort (· ≤ ·)) ≤ (times.length - 1) / 2 := by
    rwa [outliers, perm.countP_eq]
  refine ⟨_, List.getElem?_eq_getElem inside, ?_, ?_⟩
  · by_contra early
    have many : times.length / 2 < outliers low high (times.mergeSort (· ≤ ·)) :=
      lt_outliers_of_early order inside (Nat.lt_of_not_le early)
    omega
  · by_contra late
    have many : (times.mergeSort (· ≤ ·)).length - times.length / 2
        ≤ outliers low high (times.mergeSort (· ≤ ·)) :=
      le_outliers_of_late order inside (Nat.lt_of_not_le late)
    omega

end

/-! ### Honest answers -/

namespace Answer

/-- The network time is `now` when all answers are in, and the node gave the network time at some
instant from the question to the arrival of its answer. -/
def Honest (now : Nat) (a : Answer) : Prop :=
  ∃ asked, asked + a.age = now ∧ asked ≤ a.reported ∧ a.reported ≤ asked + a.roundTrip

theorem honest_iff {now : Nat} {a : Answer} :
    a.Honest now ↔
      a.age ≤ now ∧ now - a.age ≤ a.reported ∧ a.reported ≤ now - a.age + a.roundTrip := by
  constructor
  · rintro ⟨asked, rfl, least, most⟩
    omega
  · rintro ⟨later, least, most⟩
    exact ⟨now - a.age, by omega, least, most⟩

instance (now : Nat) (a : Answer) : Decidable (a.Honest now) := decidable_of_iff _ honest_iff.symm

/-- Half of the round trip, rounded up. -/
def half (a : Answer) : Nat := (a.roundTrip + 1) / 2

/-- An honest answer is off by no more than half of its round trip, also if that is more than the
time that the node gave. -/
theorem Honest.near {now : Nat} {a : Answer} (honest : a.Honest now) :
    now - a.half ≤ a.sum ∧ a.sum ≤ now + a.half := by
  obtain ⟨asked, rfl, least, most⟩ := honest
  unfold half sum
  omega

end Answer

/-- How many answers are dishonest. -/
def liars (now : Nat) (answers : List Answer) : Nat :=
  answers.countP fun a => decide ¬ a.Honest now

/-- The largest half round trip of the honest answers. -/
def slack (now : Nat) (answers : List Answer) : Nat :=
  ((answers.filter fun a => decide (a.Honest now)).map Answer.half).foldr max 0

theorem half_le_slack {now : Nat} {answers : List Answer} {a : Answer} (mem : a ∈ answers)
    (honest : a.Honest now) : a.half ≤ slack now answers := by
  have own : a.half ∈ (answers.filter fun a => decide (a.Honest now)).map Answer.half :=
    List.mem_map_of_mem (List.mem_filter.2 ⟨mem, decide_eq_true honest⟩)
  unfold slack
  generalize (answers.filter fun a => decide (a.Honest now)).map Answer.half = halves at own ⊢
  induction halves with
  | nil => cases own
  | cons h rest ih =>
    rw [List.foldr_cons]
    rcases List.mem_cons.1 own with rfl | later
    · exact Nat.le_max_left _ _
    · exact Nat.le_trans (ih later) (Nat.le_max_right _ _)

/-- The middle one of the times that answers stand for, if it is known of the honest ones how far
they are off. -/
theorem middle_near {answers : List Answer} {now : Nat} (nonempty : answers ≠ [])
    (few : liars now answers ≤ (answers.length - 1) / 2) {read : Answer → Nat}
    (exact : ∀ a ∈ answers, a.Honest now → read a = a.sum) :
    ∃ time, middle? (answers.map read) = some time ∧
      now - slack now answers ≤ time ∧ time ≤ now + slack now answers := by
  refine middle_within (by rwa [ne_eq, List.map_eq_nil_iff]) ?_
  rw [List.length_map, outliers, List.countP_map]
  refine Nat.le_trans (List.countP_mono_left fun a mem isOut => ?_) few
  refine decide_eq_true fun honest => of_decide_eq_true isOut ?_
  have near := honest.near
  have bound := half_le_slack mem honest
  rw [exact a mem honest]
  omega

end OnionSwarm.Clock

/-
Which times 64 bits hold.

They hold every time that a clock will show for ages, but a node may claim any time up to the last
one that they hold, and the client adds to what the node claims: half a round trip at least, and
later on what has passed since.  Where a time is as late as that, the sum loses its upper part, and
the client takes it to be the first year of all (`timeAt_lt_year`).  Where it is only half as late,
the sum fits, but not with a sign, and its difference to the time of the system is wrong.

The conditions here are exact: each says of one sum, of one conversion or of one difference when it
is what it would be with numbers of any size.
-/
import Mathlib.Tactic.Common
import OnionSwarm.Clock.Sample

namespace OnionSwarm.Clock

/-- A year, in milliseconds. -/
def year : Nat := 365 * 86400000

/-- Do 64 bits with a sign hold a number? -/
def Fits (i : Int) : Prop := -(wordEnd / 2 : Nat) ≤ i ∧ i < (wordEnd / 2 : Nat)

instance (i : Int) : Decidable (Fits i) := inferInstanceAs (Decidable (_ ∧ _))

theorem signed_eq_self_iff {i : Int} : signed i = i ↔ Fits i := by
  unfold signed Fits wordEnd
  omega

theorem signed_of_early {t : Nat} (early : t < wordEnd / 2) : signed t = t :=
  signed_eq_self_iff.2 ⟨by omega, by omega⟩

/-- What is too late for a number with a sign counts as one from before the beginning. -/
theorem signed_of_late {t : Nat} (late : wordEnd / 2 ≤ t) (word : t < wordEnd) :
    signed t = (t : Int) - wordEnd := by
  unfold signed
  unfold wordEnd at *
  omega

/-! ### Sums -/

namespace Answer

variable {a : Answer}

theorem candidate_eq_sum_iff : a.candidate = a.sum ↔ a.sum < wordEnd :=
  Nat.mod_eq_iff_lt (by decide)

/-- The sum of an answer is too large exactly if what is added to the reported time is. -/
theorem wordEnd_le_sum_iff (inside : a.roundTrip ≤ a.age) (recent : a.age < year) :
    wordEnd ≤ a.sum ↔ wordEnd ≤ a.reported + (a.age - a.roundTrip / 2) := by
  unfold sum
  unfold year at recent
  unfold wordEnd
  omega

end Answer

/-! ### The estimate -/

theorem mem_of_middle? {times : List Nat} {m : Nat} (middle : middle? times = some m) : m ∈ times :=
  (List.mergeSort_perm times (· ≤ ·)).mem_iff.1 (List.mem_of_getElem? middle)

/-- If no answer comes near the end, the estimate is exact. -/
theorem estimate?_of_early {found : List Answer}
    (early : ∀ a ∈ found, a.age < year ∧ a.reported + 2 * year < wordEnd / 2) :
    estimate? found = middle? (found.map Answer.sum) ∧
      ∀ time, estimate? found = some time → time + year < wordEnd / 2 := by
  have small (a : Answer) (mem : a ∈ found) : a.sum + year < wordEnd / 2 := by
    obtain ⟨recent, far⟩ := early a mem
    unfold Answer.sum
    omega
  have same : estimate? found = middle? (found.map Answer.sum) := by
    have fit (a : Answer) (mem : a ∈ found) : a.candidate = a.sum :=
      Answer.candidate_eq_sum_iff.2 (by have := small a mem; omega)
    rw [estimate?, List.map_congr_left fit]
  refine ⟨same, fun time estimated => ?_⟩
  rw [same] at estimated
  obtain ⟨a, mem, rfl⟩ := List.mem_map.1 (mem_of_middle? estimated)
  exact small a mem

end OnionSwarm.Clock

namespace OnionSwarm.Reading

open Clock

variable {r : Reading} {now system : Nat}

theorem timeAt_eq_sum_iff : r.timeAt now = r.sum now ↔ r.sum now < wordEnd :=
  Nat.mod_eq_iff_lt (by decide)

theorem timeAt_lt_wordEnd : r.timeAt now < wordEnd := Nat.mod_lt _ (by decide)

/-- A sum that is too large starts over. -/
theorem timeAt_lt_year (word : r.time < wordEnd) (recent : (now - r.instant) / tick < year)
    (late : wordEnd ≤ r.sum now) : r.timeAt now < year := by
  have wrapped : r.timeAt now = r.sum now - wordEnd := by
    have small : r.sum now < 2 * wordEnd := by
      unfold sum
      unfold year at recent
      unfold wordEnd at *
      omega
    unfold timeAt
    rw [Nat.mod_eq_sub_mod late, Nat.mod_eq_of_lt (by omega)]
  rw [wrapped]
  unfold sum at *
  omega

/-! ### Differences -/

/-- With the system's time within range, the difference leaves the range for some times that are too
late to have a sign, but not for all of them. -/
theorem fits_difference_iff (early : system < wordEnd / 2) :
    Fits (signed (r.timeAt now) - signed system) ↔
      r.timeAt now < wordEnd / 2 ∨ wordEnd / 2 + system ≤ r.timeAt now := by
  have word : r.timeAt now < wordEnd := timeAt_lt_wordEnd
  rw [signed_of_early early]
  rcases Nat.lt_or_ge (r.timeAt now) (wordEnd / 2) with small | large
  · rw [signed_of_early small]
    unfold Fits
    omega
  · rw [signed_of_late large word]
    unfold Fits wordEnd at *
    omega

/-- The difference is right exactly for the times at which its wrong sign is made up for. -/
theorem offset_eq_iff (early : system < wordEnd / 2) :
    r.offset now system = (r.timeAt now : Int) - system ↔
      r.timeAt now < wordEnd / 2 + system := by
  have word : r.timeAt now < wordEnd := timeAt_lt_wordEnd
  unfold offset
  rw [signed_of_early early]
  rcases Nat.lt_or_ge (r.timeAt now) (wordEnd / 2) with small | large
  · rw [signed_of_early small, signed_eq_self_iff]
    unfold Fits
    omega
  · rw [signed_of_late large word]
    unfold signed
    unfold wordEnd at *
    omega

/-- A reading far enough from the end is exact for a year. -/
theorem exact_of_early (far : r.time + year < wordEnd / 2)
    (recent : (now - r.instant) / tick < year) :
    r.timeAt now = r.time + (now - r.instant) / tick ∧ r.timeAt now < wordEnd / 2 := by
  have same : r.timeAt now = r.sum now := timeAt_eq_sum_iff.2 (by unfold sum; omega)
  rw [same]
  unfold sum
  omega

end OnionSwarm.Reading

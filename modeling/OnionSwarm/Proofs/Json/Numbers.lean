/-
Whole numbers in JSON text are read back.

The reader takes all digits that stand together, so a numeral can only be read back where something
else stands behind it: the end of the text, one of three marks, or a blank.  The digits are then
gathered into the number they were taken from, and none of them is dropped as long
as the number fits 64 bits.
-/
import Mathlib.Tactic.Common
import OnionSwarm.Json.Render
import OnionSwarm.Json.Written
import OnionSwarm.Proofs.Text.Decimal

namespace OnionSwarm

/-- A whole number of the range that JSON text keeps exactly. -/
def Number.Fits : Number → Prop
  | .int i => -0x8000000000000000 ≤ i ∧ i < 0x10000000000000000
  | .double _ => False

namespace Json

/-- A blank between the parts of a text. -/
def IsBlank (b : UInt8) : Prop := b = 32 ∨ b = 9 ∨ b = 10 ∨ b = 13

/-- What may stand behind a value: nothing, a mark that ends it, or a blank. -/
def Ends : Bytes → Prop
  | [] => True
  | b :: _ => (b = 44 ∨ b = 93 ∨ b = 125) ∨ IsBlank b

theorem ends_nil : Ends [] := trivial

theorem ends_mark {b : UInt8} (mark : b = 44 ∨ b = 93 ∨ b = 125) (rest : Bytes) :
    Ends (b :: rest) := .inl mark

namespace Numeral

open Text.Decimal (digitList digitByte encode last64 digitList_lt digitList_head digitList_small
  digitList_large encode_eq ofString_toString)

/-! ### Digits -/

theorem digit?_digitByte : ∀ d < 10, digit? (digitByte d) = some d := by
  decide

theorem spanDigits_of_ends {rest : Bytes} (ends : Ends rest) : spanDigits rest = ([], rest) := by
  cases rest with
  | nil => rfl
  | cons b rest =>
    have none : digit? b = none := by
      rcases ends with (rfl | rfl | rfl) | (rfl | rfl | rfl | rfl) <;> rfl
    rw [spanDigits, none]

theorem spanDigits_append {ds : List Nat} {rest : Bytes} (small : ∀ d ∈ ds, d < 10)
    (ends : Ends rest) : spanDigits (ds.map digitByte ++ rest) = (ds, rest) := by
  induction ds with
  | nil => exact spanDigits_of_ends ends
  | cons d ds ih =>
    rw [List.map_cons, List.cons_append, spanDigits, digit?_digitByte d (small d (by simp)),
      ih fun d' mem => small d' (by simp [mem])]

/-- No digit is dropped from a number that fits. -/
theorem whole_digitList {n : Nat} (fits : n ≤ last64) : whole (digitList n) = ⟨n, 0, false⟩ := by
  induction n using Nat.strongRecOn with
  | _ n ih =>
    by_cases small : n < 10
    · have kept : ¬ last64 < n := by omega
      simp [whole, digitList_small small, kept]
    · have before := ih (n / 10) (by omega) (by omega)
      rw [whole] at before
      have value : 10 * (n / 10) + n % 10 = n := by omega
      have kept : ¬ last64 < n := by omega
      rw [digitList_large (by omega), whole, List.foldl_append, before]
      simp [value, kept]

/-! ### Numerals -/

theorem tail_of_ends {negative : Bool} {n : Numeral} {rest : Bytes} (ends : Ends rest) :
    tail negative n rest = some (plain? negative n, rest) := by
  cases rest with
  | nil => rfl
  | cons b rest => rcases ends with (rfl | rfl | rfl) | (rfl | rfl | rfl | rfl) <;> rfl

/-- The digits of a number are not none, and start with zero only if they are zero alone. -/
theorem digitList_shape (n : Nat) :
    ∃ d ds, digitList n = d :: ds ∧ (d = 0 → ds = []) := by
  rcases Nat.eq_zero_or_pos n with rfl | pos
  · exact ⟨0, [], digitList_small (by omega), fun _ => rfl⟩
  · obtain ⟨d, ds, form, head⟩ := digitList_head pos
    exact ⟨d, ds, form, fun zero => (head zero).elim⟩

/-- What `read` does once the sign is taken. -/
theorem read_digits (negative : Bool) {n : Nat} {rest : Bytes} (fits : n ≤ last64)
    (ends : Ends rest) :
    (match spanDigits (encode n ++ rest) with
      | ([], _) => none
      | (0 :: _ :: _, _) => none
      | (ds, rest) => tail negative (whole ds) rest)
      = some (plain? negative ⟨n, 0, false⟩, rest) := by
  rw [encode_eq, spanDigits_append (digitList_lt n) ends]
  have gathered := whole_digitList fits
  obtain ⟨d, ds, form, alone⟩ := digitList_shape n
  rw [form] at gathered ⊢
  split
  · simp_all
  · rename_i heq
    simp only [Prod.mk.injEq, List.cons.injEq] at heq
    obtain ⟨⟨rfl, more⟩, -⟩ := heq
    rw [alone rfl] at more
    contradiction
  · rename_i heq
    obtain ⟨rfl, rfl⟩ := Prod.mk.inj heq
    rw [gathered, tail_of_ends ends]

theorem encode_shape (n : Nat) :
    ∃ b bs, encode n = b :: bs ∧ b ≠ 45 ∧ 48 ≤ b ∧ b ≤ 57 := by
  have range : ∀ d < 10, digitByte d ≠ 45 ∧ 48 ≤ digitByte d ∧ digitByte d ≤ 57 := by decide
  obtain ⟨d, ds, form, -⟩ := digitList_shape n
  have small := digitList_lt n d (by rw [form]; simp)
  exact ⟨digitByte d, ds.map digitByte, by rw [encode_eq, form, List.map_cons], range d small⟩

theorem read_nat {n : Nat} {rest : Bytes} (fits : n ≤ last64) (ends : Ends rest) :
    read (encode n ++ rest) = some (some (.int n), rest) := by
  have found := read_digits false fits ends
  obtain ⟨b, bs, form, unsigned, -⟩ := encode_shape n
  rw [form] at found ⊢
  unfold read
  split
  rename_i sign
  split at sign
  · rename_i signed
    exact (unsigned (List.cons.inj signed).1).elim
  · obtain ⟨rfl, rfl⟩ := Prod.mk.inj sign
    exact found

theorem read_negative {n : Nat} {rest : Bytes} (pos : 0 < n) (fits : n ≤ 0x8000000000000000)
    (ends : Ends rest) : read (45 :: (encode n ++ rest)) = some (some (.int (-n)), rest) := by
  have small : n ≤ last64 := by
    have : 0x8000000000000000 ≤ last64 := by decide
    omega
  have found := read_digits true small ends
  have value : plain? true ⟨n, 0, false⟩ = some (.int (-n)) := by
    simp only [plain?, if_pos (And.intro pos fits), if_true, Bool.false_eq_true, if_false]
  rw [value] at found
  exact found

end Numeral

/-- **A whole number that fits is read back from its text.** -/
theorem read_renderNumber {n : Number} (fits : n.Fits) {rest : Bytes} (ends : Ends rest) :
    ∃ b bs, Bytes.ofString (renderNumber n) = b :: bs ∧ Written.startsNumeral b = true ∧
      Numeral.read (b :: bs ++ rest) = some (some n, rest) := by
  cases n with
  | double bits => exact fits.elim
  | int i =>
    rw [renderNumber]
    cases i with
    | ofNat m =>
      have text : toString (Int.ofNat m) = toString m := rfl
      obtain ⟨b, bs, form, -, low, high⟩ := Numeral.encode_shape m
      rw [text, Text.Decimal.ofString_toString, form]
      refine ⟨b, bs, rfl, by simp [Written.startsNumeral, low, high], ?_⟩
      rw [← form]
      have high : (m : Int) < 0x10000000000000000 := fits.2
      exact Numeral.read_nat (by rw [Text.Decimal.last64]; omega) ends
    | negSucc m =>
      rw [Text.Decimal.ofString_toString_negSucc]
      refine ⟨45, _, rfl, rfl, ?_⟩
      have low := fits.1
      exact Numeral.read_negative (by omega) (by omega) ends

end Json
end OnionSwarm

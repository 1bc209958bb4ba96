/-
Hexadecimal text is read back, and whatever is all digits is read.

There are sixteen digits, so what is true of each of them is decided by looking at all.  The rest
is one induction over the bytes, two digits a byte.
-/
import Mathlib.Tactic.Common
import OnionSwarm.Proofs.Text.Utf8
import OnionSwarm.Text.Hex

namespace OnionSwarm.Text.Hex

/-- The two digits of a byte, as the bytes of a text. -/
def pairBytes (b : UInt8) : Bytes :=
  [UInt8.ofNat (digit (b.toNat / 16)).toNat, UInt8.ofNat (digit (b.toNat % 16)).toNat]

/-- A digit is one byte of text, and is read as what it was written for. -/
theorem digit_byte : ∀ n < 16,
    String.utf8EncodeChar (digit n) = [UInt8.ofNat (digit n).toNat] ∧
      digitValue? (UInt8.ofNat (digit n).toNat) = some (UInt8.ofNat n) := by
  decide

theorem ofString_encode (bytes : Bytes) :
    Bytes.ofString (encode bytes) = bytes.flatMap pairBytes := by
  simp only [Bytes.ofString, encode, String.toList_ofList, List.flatMap_assoc]
  congr 1
  funext b
  have high := digit_byte (b.toNat / 16) (by have := b.toNat_lt; omega)
  have low := digit_byte (b.toNat % 16) (by omega)
  simp [pair, pairBytes, high.1, low.1]

/-- The halves of a byte make the byte. -/
theorem join_halves (b : UInt8) :
    UInt8.ofNat (b.toNat / 16) * 16 + UInt8.ofNat (b.toNat % 16) = b := by
  rw [← UInt8.toNat_inj]
  have range := b.toNat_lt
  simp
  omega

theorem pairs_flatMap (position : Nat) (bytes : Bytes) :
    pairs position (bytes.flatMap pairBytes) = .ok bytes := by
  induction bytes generalizing position with
  | nil => rfl
  | cons b bytes ih =>
    have high := digit_byte (b.toNat / 16) (by have := b.toNat_lt; omega)
    have low := digit_byte (b.toNat % 16) (by omega)
    simp only [List.flatMap_cons, pairBytes, List.cons_append, List.nil_append, pairs, high.2, low.2]
    rw [ih]
    simp only [join_halves]

theorem length_flatMap_pairBytes (bytes : Bytes) :
    (bytes.flatMap pairBytes).length = 2 * bytes.length := by
  induction bytes with
  | nil => rfl
  | cons b bytes ih =>
    rw [List.flatMap_cons, List.length_append, ih, List.length_cons]
    simp only [pairBytes, List.length_cons, List.length_nil]
    omega

/-- **Bytes are read back from their hexadecimal text.** -/
theorem decode_encode (bytes : Bytes) : decode (encode bytes) = .ok bytes := by
  rw [decode, ofString_encode, decodeBytes, length_flatMap_pairBytes, if_neg (by omega)]
  exact pairs_flatMap 0 bytes

/-! ### Text that is all digits -/

/-- Digits, as many as make whole bytes, are read. -/
theorem pairs_of_isDigits (position : Nat) {bytes : Bytes} (digits : isDigits bytes = true)
    (even : bytes.length % 2 = 0) :
    ∃ out, pairs position bytes = .ok out ∧ 2 * out.length = bytes.length := by
  fun_induction pairs position bytes with
  | case1 => exact ⟨[], rfl, rfl⟩
  | case2 => cases even
  | case3 position high low rest unread => simp [isDigits, unread] at digits
  | case4 position high low rest h first unread => simp [isDigits, unread] at digits
  | case5 position high low rest h first l second out read ih =>
    simp only [isDigits, List.all_cons, Bool.and_eq_true] at digits
    obtain ⟨out', read', count⟩ := ih digits.2.2 (by simp only [List.length_cons] at even; omega)
    rw [read] at read'
    obtain rfl := Except.ok.inj read'
    exact ⟨_, rfl, by simp only [List.length_cons]; omega⟩
  | case6 position high low rest h first l second e failed ih =>
    simp only [isDigits, List.all_cons, Bool.and_eq_true] at digits
    obtain ⟨out, read, -⟩ := ih digits.2.2 (by simp only [List.length_cons] at even; omega)
    cases failed.symm.trans read

/-- A digit as it is written, in lower case. -/
def IsLower (c : Char) : Prop := '0' ≤ c ∧ c ≤ '9' ∨ 'a' ≤ c ∧ c ≤ 'f'

instance (c : Char) : Decidable (IsLower c) :=
  inferInstanceAs (Decidable ('0' ≤ c ∧ c ≤ '9' ∨ 'a' ≤ c ∧ c ≤ 'f'))

theorem isLower_toLower_of_digit : ∀ n < 128, (digitValue? (UInt8.ofNat n)).isSome = true →
    IsLower (Char.ofNat n).toLower := by
  decide

theorem IsLower.small {c : Char} (lower : IsLower c) : c.toNat < 128 := by
  have last : c ≤ 'f' := by
    rcases lower with ⟨-, high⟩ | ⟨-, high⟩
    · exact Nat.le_trans high (by decide)
    · exact high
  exact Nat.lt_of_le_of_lt last (by decide)

theorem digit_of_isLower : ∀ n < 128, IsLower (Char.ofNat n) →
    (digitValue? (UInt8.ofNat n)).isSome = true := by
  decide

/-- A character whose bytes are all digits has one byte. -/
theorem ascii_of_isDigits {c : Char} (digits : isDigits (String.utf8EncodeChar c) = true) :
    c.toNat < 128 := by
  obtain ⟨first, tail, form, found⟩ := Utf8.next_encodeChar c
  rw [form, isDigits, List.all_cons, Bool.and_eq_true] at digits
  have small : first.toNat < 128 := by
    by_contra large
    have unread : digitValue? first = none := by
      simp only [digitValue?, UInt8.le_iff_toNat_le, UInt8.reduceToNat]
      rw [if_neg (by omega), if_neg (by omega), if_neg (by omega)]
    rw [unread] at digits
    cases digits.1
  have alone := (found []).symm.trans (Utf8.next_one small)
  injection alone with same
  rw [same]
  exact (by decide : ∀ n < 128, (Char.ofNat n).toNat < 128) _ small

/-- **Hexadecimal digits of either case are as many digits in lower case.** -/
theorem isLower_of_isDigits {text : String} (digits : isDigits (Bytes.ofString text) = true) :
    (Bytes.ofString text).length = text.toList.length ∧
      ∀ c ∈ text.toList, IsLower c.toLower := by
  have each : ∀ c ∈ text.toList, isDigits (String.utf8EncodeChar c) = true := by
    intro c mem
    rw [isDigits, List.all_eq_true] at digits ⊢
    exact fun b within => digits b (List.mem_flatMap.2 ⟨c, mem, within⟩)
  have form := Utf8.encode_ascii fun c mem => ascii_of_isDigits (each c mem)
  refine ⟨by rw [Bytes.ofString, form, List.length_map], fun c mem => ?_⟩
  have small := ascii_of_isDigits (each c mem)
  have digit : (digitValue? (UInt8.ofNat c.toNat)).isSome = true := by
    rw [Bytes.ofString, form, isDigits, List.all_eq_true] at digits
    exact digits _ (List.mem_map.2 ⟨c, mem, rfl⟩)
  simpa only [Char.ofNat_toNat] using isLower_toLower_of_digit c.toNat small digit

/-- **Digits in lower case, as many as make whole bytes, are read.** -/
theorem decode_of_isLower {text : String} (lower : ∀ c ∈ text.toList, IsLower c)
    (even : text.toList.length % 2 = 0) :
    ∃ bytes, decode text = .ok bytes ∧ 2 * bytes.length = text.toList.length := by
  have form : Bytes.ofString text = text.toList.map fun c => UInt8.ofNat c.toNat :=
    Utf8.encode_ascii fun c mem => (lower c mem).small
  have digits : isDigits (text.toList.map fun c => UInt8.ofNat c.toNat) = true := by
    rw [isDigits, List.all_map, List.all_eq_true]
    intro c mem
    refine digit_of_isLower c.toNat (lower c mem).small ?_
    rw [Char.ofNat_toNat]
    exact lower c mem
  have length : (text.toList.map fun c => UInt8.ofNat c.toNat).length = text.toList.length :=
    List.length_map _
  rw [decode, form, decodeBytes, if_neg (by omega), ← length]
  exact pairs_of_isDigits 0 digits (by omega)

end OnionSwarm.Text.Hex

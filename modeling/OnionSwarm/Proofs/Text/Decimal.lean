/-
The decimal digits of a number.

A numeral is its digits before it is a text, so they are taken apart as numbers here: the last
digit is the remainder by ten, and the others are the digits of the quotient.  Every fact about
them is an induction along that step.
-/
import Mathlib.Data.List.Induction
import Mathlib.Data.Nat.Digits.Lemmas
import Mathlib.Tactic.Common
import OnionSwarm.Proofs.Text.Utf8
import OnionSwarm.Text.Decimal

namespace OnionSwarm.Text.Decimal

/-- The digits of a number, the first one first. -/
def digitList (n : Nat) : List Nat := (Nat.toDigits 10 n).map fun c => c.toNat - 48

/-- The byte of a digit. -/
def digitByte (d : Nat) : UInt8 := UInt8.ofNat (d + 48)

theorem digitList_small {n : Nat} (small : n < 10) : digitList n = [n] := by
  rw [digitList, Nat.toDigits_of_lt_base small]
  revert n
  decide

theorem digitList_large {n : Nat} (large : 10 ≤ n) :
    digitList n = digitList (n / 10) ++ [n % 10] := by
  have last : ∀ d < 10, (Nat.digitChar d).toNat - 48 = d := by decide
  rw [digitList, Nat.toDigits_of_base_le (by omega) large, List.map_append, List.map_singleton,
    last _ (by omega)]
  rfl

theorem digitList_lt (n : Nat) : ∀ d ∈ digitList n, d < 10 := by
  induction n using Nat.strongRecOn with
  | _ n ih =>
    by_cases small : n < 10
    · rw [digitList_small small]
      intro d mem
      rw [List.mem_singleton.mp mem]
      exact small
    · rw [digitList_large (by omega)]
      intro d mem
      rcases List.mem_append.mp mem with mem | mem
      · exact ih (n / 10) (by omega) d mem
      · rw [List.mem_singleton.mp mem]
        omega

theorem length_digitList_pos (n : Nat) : 0 < (digitList n).length := by
  rw [digitList, List.length_map]
  exact Nat.length_toDigits_pos

/-- A number other than zero starts with a digit other than zero. -/
theorem digitList_head {n : Nat} (pos : 0 < n) : ∃ d ds, digitList n = d :: ds ∧ d ≠ 0 := by
  induction n using Nat.strongRecOn with
  | _ n ih =>
    by_cases small : n < 10
    · exact ⟨n, [], digitList_small small, by omega⟩
    · obtain ⟨d, ds, form, head⟩ := ih (n / 10) (by omega) (by omega)
      refine ⟨d, ds ++ [n % 10], ?_, head⟩
      rw [digitList_large (by omega), form, List.cons_append]

/-! ### Numbers written together -/

theorem ofDigits_digitList (n : Nat) : Nat.ofDigits 10 (digitList n).reverse = n := by
  induction n using Nat.strongRecOn with
  | _ n ih =>
    by_cases small : n < 10
    · simp [digitList_small small]
    · have before := ih (n / 10) (by omega)
      rw [digitList_large (by omega), List.reverse_append, List.reverse_singleton,
        List.singleton_append, Nat.ofDigits_cons, before]
      omega

theorem digitList_injective : Function.Injective digitList := by
  intro m n same
  rw [← ofDigits_digitList m, same, ofDigits_digitList]

theorem digitList_snoc {n d : Nat} (pos : 0 < n) (small : d < 10) :
    digitList (n * 10 + d) = digitList n ++ [d] := by
  have quotient : (n * 10 + d) / 10 = n := by omega
  have remainder : (n * 10 + d) % 10 = d := by omega
  rw [digitList_large (by omega), quotient, remainder]

/-- The digits of one number behind those of another are the digits of a third. -/
theorem digitList_append {a : Nat} (pos : 0 < a) (b : Nat) :
    digitList (a * 10 ^ (digitList b).length + b) = digitList a ++ digitList b := by
  induction b using Nat.strongRecOn with
  | _ b ih =>
    by_cases small : b < 10
    · rw [digitList_small small, List.length_singleton, Nat.pow_one]
      exact digitList_snoc pos small
    · have before := ih (b / 10) (by omega)
      have form := digitList_large (n := b) (by omega)
      have value : a * 10 ^ (digitList b).length + b
          = (a * 10 ^ (digitList (b / 10)).length + b / 10) * 10 + b % 10 := by
        rw [form, List.length_append, List.length_singleton, Nat.pow_succ, ← Nat.mul_assoc]
        omega
      have some : 0 < a * 10 ^ (digitList (b / 10)).length + b / 10 := by omega
      rw [value, digitList_snoc some (by omega), before, List.append_assoc, ← form]

/-- Digits that do not start with zero are the digits of a number. -/
theorem exists_digitList {d : Nat} {ds : List Nat} (head : d ≠ 0) (small : ∀ e ∈ d :: ds, e < 10) :
    ∃ n, 0 < n ∧ digitList n = d :: ds := by
  induction ds using List.reverseRecOn with
  | nil => exact ⟨d, by omega, digitList_small (small d (by simp))⟩
  | append_singleton ds e ih =>
    obtain ⟨n, pos, form⟩ := ih fun e' mem => small e' (by simp at mem ⊢; tauto)
    exact ⟨n * 10 + e, by omega, by rw [digitList_snoc pos (small e (by simp)), form]; rfl⟩

/-- Digits in front of those of a number, where no zero comes first, are those of a number. -/
theorem of_digitList_eq_append {m n : Nat} {front : List Nat} (some : front ≠ [])
    (split : digitList n = front ++ digitList m) :
    ∃ a, 0 < a ∧ digitList a = front ∧ n = a * 10 ^ (digitList m).length + m := by
  -- there are two digits at least, so the first of them is not zero
  have large : 10 ≤ n := by
    by_contra small
    have count := congrArg List.length split
    have before := List.length_pos_of_ne_nil some
    have behind := length_digitList_pos m
    rw [digitList_small (by omega), List.length_append, List.length_singleton] at count
    omega
  obtain ⟨d, ds, form, head⟩ := digitList_head (show 0 < n by omega)
  obtain ⟨e, es, rfl⟩ := List.exists_cons_of_ne_nil some
  obtain ⟨rfl, -⟩ := List.cons.inj (form.symm.trans split)
  have small : ∀ x ∈ d :: es, x < 10 := by
    intro x mem
    exact digitList_lt n x (split ▸ List.mem_append_left _ mem)
  obtain ⟨a, pos, written⟩ := exists_digitList head small
  refine ⟨a, pos, written, digitList_injective ?_⟩
  rw [digitList_append pos, written, split]

/-! ### As bytes of a text -/

theorem digit_range {n : Nat} {c : Char} (mem : c ∈ Nat.toDigits 10 n) :
    48 ≤ c.toNat ∧ c.toNat ≤ 57 := by
  have digit := Nat.isDigit_of_mem_toDigits (by omega) (by omega) mem
  simp only [Char.isDigit, Bool.and_eq_true, decide_eq_true_eq, ge_iff_le,
    UInt32.le_iff_toNat_le] at digit
  exact digit

theorem encode_eq (n : Nat) : encode n = (digitList n).map digitByte := by
  rw [encode, digitList, List.map_map]
  refine List.map_congr_left fun c mem => ?_
  rw [Function.comp_apply, digitByte, Nat.sub_add_cancel (digit_range mem).1]

theorem digitByte_range {d : Nat} (small : d < 10) :
    48 ≤ (digitByte d).toNat ∧ (digitByte d).toNat ≤ 57 ∧ (digitByte d).toNat - 48 = d := by
  have fits : (digitByte d).toNat = d + 48 := by
    rw [digitByte, UInt8.toNat_ofNat']
    omega
  omega

theorem range_of_mem_encode {n : Nat} {b : UInt8} (mem : b ∈ encode n) :
    48 ≤ b.toNat ∧ b.toNat ≤ 57 := by
  rw [encode_eq] at mem
  obtain ⟨d, isDigit, rfl⟩ := List.mem_map.1 mem
  have range := digitByte_range (digitList_lt n d isDigit)
  exact ⟨range.1, range.2.1⟩

theorem length_encode (n : Nat) : (encode n).length = (digitList n).length := by
  rw [encode_eq, List.length_map]

theorem encode_ne_nil (n : Nat) : encode n ≠ [] :=
  List.ne_nil_of_length_pos (length_encode n ▸ length_digitList_pos n)

/-- The digits are found again in the bytes. -/
theorem digits_encode (n : Nat) : (encode n).map (fun b => b.toNat - 48) = digitList n := by
  rw [encode_eq, List.map_map]
  conv_rhs => rw [← List.map_id (digitList n)]
  refine List.map_congr_left fun d mem => ?_
  exact (digitByte_range (digitList_lt n d mem)).2.2

theorem encode_injective : Function.Injective encode := by
  intro m n same
  refine digitList_injective ?_
  rw [← digits_encode, same, digits_encode]

theorem encode_append {a : Nat} (pos : 0 < a) (b : Nat) :
    encode (a * 10 ^ (encode b).length + b) = encode a ++ encode b := by
  rw [length_encode, encode_eq, digitList_append pos, List.map_append, ← encode_eq, ← encode_eq]

/-- **The bytes of a number end with those of another one if they go on from a third.** -/
theorem encode_eq_append_iff {m n : Nat} {front : Bytes} (some : front ≠ []) :
    encode n = front ++ encode m ↔
      ∃ a, 0 < a ∧ front = encode a ∧ n = a * 10 ^ (encode m).length + m := by
  constructor
  · intro split
    have digits := congrArg (List.map fun b => b.toNat - 48) split
    rw [digits_encode, List.map_append, digits_encode] at digits
    obtain ⟨a, pos, -, value⟩ := of_digitList_eq_append (mt List.map_eq_nil_iff.1 some) digits
    rw [← length_encode] at value
    have joined : front ++ encode m = encode a ++ encode m := by
      rw [← split, value, encode_append pos]
    exact ⟨a, pos, List.append_cancel_right joined, value⟩
  · rintro ⟨a, pos, rfl, rfl⟩
    exact encode_append pos m

/-- **The text of a number and its digits as bytes are the same thing.** -/
theorem ofString_toString (n : Nat) : Bytes.ofString (toString n) = encode n := by
  rw [Bytes.ofString, Nat.toString_eq_repr, Nat.toList_repr, encode]
  refine Utf8.encode_ascii fun c mem => ?_
  have range := digit_range mem
  omega

/-- A number below zero has a minus sign in front. -/
theorem ofString_toString_negSucc (n : Nat) :
    Bytes.ofString (toString (Int.negSucc n)) = 45 :: encode (n + 1) := by
  have text : toString (Int.negSucc n) = "-" ++ toString (n + 1) := rfl
  rw [text, ← ofString_toString, Bytes.ofString, String.toList_append, List.flatMap_append]
  rfl

/-! ### What is read -/

theorem digits_le {last n read : Nat} {cs : List Char} (small : n ≤ last)
    (isOk : digits last n cs = .ok read) : read ≤ last := by
  induction cs generalizing n with
  | nil =>
    obtain rfl := Except.ok.inj isOk
    exact small
  | cons c cs ih =>
    rw [digits] at isOk
    split at isOk
    · cases isOk
    · split at isOk
      · cases isOk
      · exact ih (by omega) isOk

/-- No number is read that is larger than wanted. -/
theorem parse_le {last read : Nat} {text : String} (isOk : parse last text = .ok read) :
    read ≤ last := by
  unfold parse at isOk
  split at isOk
  · cases isOk
  · cases isOk
  · exact digits_le (Nat.zero_le _) isOk
  · exact digits_le (Nat.zero_le _) isOk

end OnionSwarm.Text.Decimal

/-
Text that is written as UTF-8 is read back.

The reader takes one character at a time and skips the bytes that it took, so everything rests on
one fact about a single character, `next_encodeChar`: from the first byte of its form the reader
finds the character and how many bytes are behind that one.  A form has one of four lengths.  For
each of them `next` is worked out from the ranges that the bytes lie in, and that the bytes of a
form lie in those ranges is arithmetic.
-/
import Mathlib.Tactic.Common
import OnionSwarm.Text.Utf8

namespace OnionSwarm.Text.Utf8

/-! ### What the reader finds -/

theorem isTail_of_range {b : UInt8} (low : 0x80 ≤ b.toNat) (high : b.toNat ≤ 0xBF) :
    isTail b = true := by
  simp only [isTail, Bool.and_eq_true, decide_eq_true_eq, UInt8.le_iff_toNat_le]
  exact ⟨low, high⟩

/-- A byte may come second if it may continue a character and none of the narrower ranges keeps it
out. -/
theorem isSecond_of_range {a b : UInt8} (low : 0x80 ≤ b.toNat) (high : b.toNat ≤ 0xBF)
    (overlong3 : a.toNat = 0xE0 → 0xA0 ≤ b.toNat) (surrogate : a.toNat = 0xED → b.toNat ≤ 0x9F)
    (overlong4 : a.toNat = 0xF0 → 0x90 ≤ b.toNat) (beyond : a.toNat = 0xF4 → b.toNat ≤ 0x8F) :
    isSecond a b = true := by
  simp only [isSecond, isTail, ← UInt8.toNat_inj, UInt8.le_iff_toNat_le, UInt8.reduceToNat]
  split
  · simp only [Bool.and_eq_true, decide_eq_true_eq]; omega
  · split
    · simp only [Bool.and_eq_true, decide_eq_true_eq]; omega
    · split
      · simp only [Bool.and_eq_true, decide_eq_true_eq]; omega
      · split
        all_goals simp only [Bool.and_eq_true, decide_eq_true_eq]; omega

theorem width?_eq (a : UInt8) :
    width? a =
      if a.toNat < 0x80 then some 1
      else if 0xC2 ≤ a.toNat ∧ a.toNat ≤ 0xDF then some 2
      else if 0xE0 ≤ a.toNat ∧ a.toNat ≤ 0xEF then some 3
      else if 0xF0 ≤ a.toNat ∧ a.toNat ≤ 0xF4 then some 4
      else none := by
  simp [width?, UInt8.lt_iff_toNat_lt, UInt8.le_iff_toNat_le]

theorem next_one {a : UInt8} {rest : Bytes} (h : a.toNat < 0x80) :
    next a rest = .char (Char.ofNat a.toNat) 0 := by
  have width : width? a = some 1 := by rw [width?_eq, if_pos h]
  simp only [next, width]

theorem next_two {a b : UInt8} {rest : Bytes} (low : 0xC2 ≤ a.toNat) (high : a.toNat ≤ 0xDF)
    (second : isSecond a b = true) :
    next a (b :: rest) = .char (Char.ofNat ((a.toNat - 0xC0) * 64 + (b.toNat - 0x80))) 1 := by
  have width : width? a = some 2 := by rw [width?_eq, if_neg (by omega), if_pos ⟨low, high⟩]
  simp [next, width, second]

theorem next_three {a b c : UInt8} {rest : Bytes} (low : 0xE0 ≤ a.toNat) (high : a.toNat ≤ 0xEF)
    (second : isSecond a b = true) (third : isTail c = true) :
    next a (b :: c :: rest) =
      .char (Char.ofNat (((a.toNat - 0xE0) * 64 + (b.toNat - 0x80)) * 64 + (c.toNat - 0x80))) 2 := by
  have width : width? a = some 3 := by
    rw [width?_eq, if_neg (by omega), if_neg (by omega), if_pos ⟨low, high⟩]
  simp [next, width, second, third]

theorem next_four {a b c d : UInt8} {rest : Bytes} (low : 0xF0 ≤ a.toNat) (high : a.toNat ≤ 0xF4)
    (second : isSecond a b = true) (third : isTail c = true) (fourth : isTail d = true) :
    next a (b :: c :: d :: rest) =
      .char (Char.ofNat ((((a.toNat - 0xF0) * 64 + (b.toNat - 0x80)) * 64
        + (c.toNat - 0x80)) * 64 + (d.toNat - 0x80))) 3 := by
  have width : width? a = some 4 := by
    rw [width?_eq, if_neg (by omega), if_neg (by omega), if_neg (by omega), if_pos ⟨low, high⟩]
  simp [next, width, second, third, fourth]

/-! ### The form of a character -/

/-- The byte made from a number below 256 is that number again. -/
theorem toNat_byte {n : Nat} (h : n < 256) : (UInt8.ofNat n).toNat = n :=
  UInt8.toNat_ofNat_of_lt' h

/-- A code point is no half of a surrogate pair, and not beyond the last one. -/
theorem code_range (c : Char) : c.toNat < 0xD800 ∨ 0xDFFF < c.toNat ∧ c.toNat < 0x110000 :=
  c.valid

/-- **The reader finds a character at its form.** -/
theorem next_encodeChar (c : Char) :
    ∃ first tail, String.utf8EncodeChar c = first :: tail ∧
      ∀ rest, next first (tail ++ rest) = .char c tail.length := by
  have range := code_range c
  have value : Char.ofNat c.toNat = c := Char.ofNat_toNat c
  unfold String.utf8EncodeChar
  simp only [show c.val.toNat = c.toNat from rfl]
  -- the forms of one, two, three and four bytes, in the order in which they are tried
  by_cases one : c.toNat ≤ 0x7F
  · rw [if_pos one]
    refine ⟨_, _, rfl, fun rest => ?_⟩
    have first := toNat_byte (n := c.toNat) (by omega)
    rw [next_one (by omega), first, value]
    rfl
  rw [if_neg one]
  by_cases two : c.toNat ≤ 0x7FF
  · rw [if_pos two]
    refine ⟨_, _, rfl, fun rest => ?_⟩
    have first := toNat_byte (n := c.toNat / 64 % 0x20 + 0xC0) (by omega)
    have last := toNat_byte (n := c.toNat % 0x40 + 0x80) (by omega)
    rw [List.cons_append, next_two (by omega) (by omega)
      (isSecond_of_range (by omega) (by omega) (by omega) (by omega) (by omega) (by omega)),
      first, last]
    rw [show (c.toNat / 64 % 0x20 + 0xC0 - 0xC0) * 64 + (c.toNat % 0x40 + 0x80 - 0x80) = c.toNat by
      omega, value]
    rfl
  rw [if_neg two]
  by_cases three : c.toNat ≤ 0xFFFF
  · rw [if_pos three]
    refine ⟨_, _, rfl, fun rest => ?_⟩
    have first := toNat_byte (n := c.toNat / 4096 % 0x10 + 0xE0) (by omega)
    have second := toNat_byte (n := c.toNat / 64 % 0x40 + 0x80) (by omega)
    have last := toNat_byte (n := c.toNat % 0x40 + 0x80) (by omega)
    rw [List.cons_append, List.cons_append, next_three (by omega) (by omega)
      (isSecond_of_range (by omega) (by omega) (by omega) (by omega) (by omega) (by omega))
      (isTail_of_range (by omega) (by omega)), first, second, last]
    rw [show ((c.toNat / 4096 % 0x10 + 0xE0 - 0xE0) * 64 + (c.toNat / 64 % 0x40 + 0x80 - 0x80)) * 64
      + (c.toNat % 0x40 + 0x80 - 0x80) = c.toNat by omega, value]
    rfl
  rw [if_neg three]
  refine ⟨_, _, rfl, fun rest => ?_⟩
  have first := toNat_byte (n := c.toNat / 262144 % 0x08 + 0xF0) (by omega)
  have second := toNat_byte (n := c.toNat / 4096 % 0x40 + 0x80) (by omega)
  have third := toNat_byte (n := c.toNat / 64 % 0x40 + 0x80) (by omega)
  have last := toNat_byte (n := c.toNat % 0x40 + 0x80) (by omega)
  rw [List.cons_append, List.cons_append, List.cons_append, next_four (by omega) (by omega)
    (isSecond_of_range (by omega) (by omega) (by omega) (by omega) (by omega) (by omega))
    (isTail_of_range (by omega) (by omega)) (isTail_of_range (by omega) (by omega)),
    first, second, third, last]
  rw [show (((c.toNat / 262144 % 0x08 + 0xF0 - 0xF0) * 64 + (c.toNat / 4096 % 0x40 + 0x80 - 0x80)) * 64
    + (c.toNat / 64 % 0x40 + 0x80 - 0x80)) * 64 + (c.toNat % 0x40 + 0x80 - 0x80) = c.toNat by omega,
    value]
  rfl

/-! ### Texts -/

/-- A text below U+0080 has one byte for each character. -/
theorem encode_ascii {cs : List Char} (ascii : ∀ c ∈ cs, c.toNat < 0x80) :
    cs.flatMap String.utf8EncodeChar = cs.map fun c => UInt8.ofNat c.toNat := by
  induction cs with
  | nil => rfl
  | cons c cs ih =>
    have one : String.utf8EncodeChar c = [UInt8.ofNat c.toNat] := by
      unfold String.utf8EncodeChar
      simp only [show c.val.toNat = c.toNat from rfl]
      have small := ascii c (by simp)
      rw [if_pos (by omega)]
    rw [List.flatMap_cons, List.map_cons, one, ih fun c' mem => ascii c' (by simp [mem])]
    rfl

theorem chars?_skip (skipped rest : Bytes) :
    chars? skipped.length (skipped ++ rest) = chars? 0 rest := by
  induction skipped with
  | nil => rfl
  | cons b skipped ih => exact ih

theorem chars?_encode (cs : List Char) :
    chars? 0 (cs.flatMap String.utf8EncodeChar) = some cs := by
  induction cs with
  | nil => rfl
  | cons c cs ih =>
    obtain ⟨first, tail, form, found⟩ := next_encodeChar c
    rw [List.flatMap_cons, form, List.cons_append, chars?, found]
    simp only [chars?_skip, ih, Option.map_some]

/-- **A text is read back from its UTF-8 form.** -/
theorem decode?_ofString (s : String) : decode? (Bytes.ofString s) = some s := by
  simp only [decode?, Bytes.ofString, chars?_encode, Option.map_some, String.ofList_toList]

theorem ofString_injective : Function.Injective Bytes.ofString := by
  intro s t same
  have texts := congrArg decode? same
  rw [decode?_ofString, decode?_ofString] at texts
  exact Option.some.inj texts

end OnionSwarm.Text.Utf8

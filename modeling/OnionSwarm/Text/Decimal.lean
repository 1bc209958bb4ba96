/-
Whole numbers in decimal.

A number of a bounded kind is read from digits with at most one plus sign in front.  The three
ways to fail are told apart, in this order: nothing to read, a character that is no digit, and a
value beyond the bound.  Digits are judged one by one from the left, so a text that overflows
before its first wrong character is too large.
-/
import OnionSwarm.Text.Bytes

namespace OnionSwarm.Text.Decimal

/-- Why a text is no number of the kind wanted. -/
inductive DecimalError where
  | empty
  | notADigit
  | tooLarge
  deriving DecidableEq, Repr

/-- The wording of an error. -/
def DecimalError.message : DecimalError → String
  | .empty => "cannot parse integer from empty string"
  | .notADigit => "invalid digit found in string"
  | .tooLarge => "number too large to fit in target type"

/-- The value of a decimal digit. -/
def digitValue? (c : Char) : Option Nat :=
  if '0' ≤ c ∧ c ≤ '9' then some (c.toNat - 48) else none

/-- Reads digits after those that made `n`, up to the number `last`. -/
def digits (last : Nat) : (n : Nat) → List Char → Except DecimalError Nat
  | n, [] => .ok n
  | n, c :: rest =>
    match digitValue? c with
    | none => .error .notADigit
    | some d => if last < 10 * n + d then .error .tooLarge else digits last (10 * n + d) rest

/-- The number of a text, which may be at most `last`. -/
def parse (last : Nat) (text : String) : Except DecimalError Nat :=
  match text.toList with
  | [] => .error .empty
  | ['+'] => .error .notADigit
  | '+' :: rest => digits last 0 rest
  | cs => digits last 0 cs

/-- The decimal digits of a number, as bytes. -/
def encode (n : Nat) : Bytes :=
  (Nat.toDigits 10 n).map fun c => UInt8.ofNat c.toNat

/-- The largest 16-bit number. -/
def last16 : Nat := 0xFFFF

/-- The largest 32-bit number. -/
def last32 : Nat := 0xFFFFFFFF

/-- The largest 64-bit number. -/
def last64 : Nat := 0xFFFFFFFFFFFFFFFF

end OnionSwarm.Text.Decimal

/-
Hexadecimal text of byte strings: two digits a byte, high half first, written in lower case and
read in either case.
-/
import OnionSwarm.Text.Bytes
import OnionSwarm.Text.Quoted

namespace OnionSwarm.Text.Hex

/-- Why a text is not hexadecimal. -/
inductive HexError where
  | oddLength
  /-- The byte at `position` of the text is no digit. -/
  | notADigit (byte : UInt8) (position : Nat)
  deriving DecidableEq, Repr

/-- The digit of a number below sixteen. -/
def digit (n : Nat) : Char :=
  if n < 10 then Char.ofNat (48 + n) else Char.ofNat (87 + n)

/-- The value of a digit of either case, given as a byte. -/
def digitValue? (b : UInt8) : Option UInt8 :=
  if 48 ≤ b ∧ b ≤ 57 then some (b - 48)
  else if 97 ≤ b ∧ b ≤ 102 then some (b - 87)
  else if 65 ≤ b ∧ b ≤ 70 then some (b - 55)
  else none

/-- The two digits of a byte. -/
def pair (b : UInt8) : List Char :=
  [digit (b.toNat / 16), digit (b.toNat % 16)]

/-- The text of a byte string. -/
def encode (bytes : Bytes) : String :=
  String.ofList (bytes.flatMap pair)

/-- Reads digit pairs that start at `position` of the whole text. -/
def pairs : (position : Nat) → Bytes → Except HexError Bytes
  | _, [] => .ok []
  | _, [_] => .error .oddLength
  | position, high :: low :: rest =>
    match digitValue? high with
    | none => .error (.notADigit high position)
    | some h =>
      match digitValue? low with
      | none => .error (.notADigit low (position + 1))
      | some l =>
        match pairs (position + 2) rest with
        | .ok bytes => .ok ((h * 16 + l) :: bytes)
        | .error e => .error e

/-- Reads hexadecimal bytes; an odd number of them is noticed before any wrong digit. -/
def decodeBytes (text : Bytes) : Except HexError Bytes :=
  if text.length % 2 = 1 then .error .oddLength else pairs 0 text

/-- Reads hexadecimal text. -/
def decode (text : String) : Except HexError Bytes :=
  decodeBytes (Bytes.ofString text)

/-- Is every byte of the text a digit? -/
def isDigits (text : Bytes) : Bool :=
  text.all fun b => (digitValue? b).isSome

/-- The wording of an error. -/
def HexError.message : HexError → String
  | .oddLength => "Odd number of digits"
  | .notADigit byte position =>
    "Invalid character " ++ Quoted.ofByte byte ++ " at position " ++ toString position

end OnionSwarm.Text.Hex

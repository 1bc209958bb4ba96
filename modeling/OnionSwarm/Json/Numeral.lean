/-
Numbers in JSON text.

The digits are gathered into a 64-bit significand; digits that no longer fit are dropped, those
before the point raising the exponent.  A numeral with neither point nor exponent that fits 64
bits is a whole number.  Any other one is the double nearest to the significand, multiplied or
divided by the double nearest to the power of ten, in at most two roundings (one more for each
308 places that the exponent lies below the least power).
-/
import OnionSwarm.Json.Value
import OnionSwarm.Text.Bytes
import OnionSwarm.Text.Decimal

namespace OnionSwarm.Json

/-- The digits of a numeral as they are read. -/
structure Numeral where
  /-- The digits kept. -/
  significand : Nat
  /-- The power of ten for the digits kept, without the written exponent. -/
  scale : Int
  /-- Did digits before the point have to be dropped? -/
  dropped : Bool
  deriving DecidableEq, Repr

namespace Numeral

/-- The value of a digit. -/
def digit? (b : UInt8) : Option Nat :=
  if 48 ≤ b ∧ b ≤ 57 then some (b.toNat - 48) else none

/-- The digits that a byte string starts with, and what follows them. -/
def spanDigits : Bytes → List Nat × Bytes
  | [] => ([], [])
  | b :: rest =>
    match digit? b with
    | some d => let (ds, after) := spanDigits rest; (d :: ds, after)
    | none => ([], b :: rest)

/-- Gathers the digits before the point. -/
def whole (ds : List Nat) : Numeral :=
  ds.foldl (fun n d =>
    if n.dropped then { n with scale := n.scale + 1 }
    else if Text.Decimal.last64 < 10 * n.significand + d then
      { n with scale := n.scale + 1, dropped := true }
    else { n with significand := 10 * n.significand + d }) ⟨0, 0, false⟩

/-- Gathers digits after the point, up to the first that does not fit. -/
def addFraction (n : Numeral) : List Nat → Numeral
  | [] => n
  | d :: ds =>
    if Text.Decimal.last64 < 10 * n.significand + d then n
    else addFraction { n with significand := 10 * n.significand + d, scale := n.scale - 1 } ds

/-- The bits of a double without its sign, and of the double with it. -/
def signed (negative : Bool) (f : Float) : Number :=
  .double (if negative then -f else f).toBits

/-- The double nearest to `10 ^ k`, for `k` up to 308. -/
def powerOfTen (k : Nat) : Float := Float.ofScientific 1 false k

/-- Brings the exponent up to where the table of powers starts. -/
def lower : (steps : Nat) → Float → Int → Float × Int
  | 0, f, e => (f, e)
  | steps + 1, f, e =>
    if e < -308 ∧ f != 0 then lower steps (f / powerOfTen 308) (e + 308) else (f, e)

/-- The magnitude `significand · 10 ^ e`, if it is no more than the greatest double. -/
def double? (significand : Nat) (e : Int) : Option Float :=
  let f := (UInt64.ofNat significand).toFloat
  -- four steps take any significand to zero
  let (f, e) := lower 4 f e
  if f == 0 then some f
  else if 0 ≤ e then
    if 308 < e then none
    else
      let product := f * powerOfTen e.toNat
      if product.isInf then none else some product
  else some (f / powerOfTen (-e).toNat)

/-- The number of a numeral with neither point nor exponent. -/
def plain? (negative : Bool) (n : Numeral) : Option Number :=
  if n.dropped then (double? n.significand n.scale).map (signed negative)
  else if negative then
    if 0 < n.significand ∧ n.significand ≤ 0x8000000000000000 then some (.int (-(n.significand : Int)))
    else some (signed true (UInt64.ofNat n.significand).toFloat)
  else some (.int n.significand)

/-- The greatest exponent that is worked out; beyond it a number is zero or too large. -/
def lastExponent : Nat := 0x7FFFFFFF

/-- An exponent, or the first one that is not worked out, if it is beyond that. -/
def exponentOf (digits : List Nat) : Nat :=
  digits.foldl (fun e d => min (10 * e + d) (lastExponent + 1)) 0

/-- The number with an exponent written after it. -/
def scaled? (negative : Bool) (n : Numeral) (down : Bool) (exponent : List Nat) :
    Option Number :=
  let e := exponentOf exponent
  if lastExponent < e then
    if n.significand ≠ 0 ∧ !down then none else some (signed negative 0)
  else
    (double? n.significand (if down then n.scale - e else n.scale + e)).map (signed negative)

/-- Reads an exponent, the letter already taken, and gives the number. -/
def exponent (negative : Bool) (n : Numeral) (bytes : Bytes) :
    Option (Option Number × Bytes) :=
  let (down, bytes) :=
    match bytes with
    | 43 :: rest => (false, rest)
    | 45 :: rest => (true, rest)
    | _ => (false, bytes)
  match spanDigits bytes with
  | ([], _) => none
  | (ds, rest) => some (scaled? negative n down ds, rest)

/-- Reads what may follow the digits before the point. -/
def tail (negative : Bool) (n : Numeral) : Bytes → Option (Option Number × Bytes)
  | 46 :: rest =>
    match spanDigits rest with
    | ([], _) => none
    | (ds, after) =>
      let n := n.addFraction ds
      match after with
      | 101 :: more => exponent negative n more
      | 69 :: more => exponent negative n more
      | _ => some ((double? n.significand n.scale).map (signed negative), after)
  | 101 :: rest => exponent negative n rest
  | 69 :: rest => exponent negative n rest
  | rest => some (plain? negative n, rest)

/-- Reads a numeral: nothing if it is none, and no number if it is beyond the doubles. -/
def read (bytes : Bytes) : Option (Option Number × Bytes) :=
  let (negative, bytes) :=
    match bytes with
    | 45 :: rest => (true, rest)
    | _ => (false, bytes)
  match spanDigits bytes with
  | ([], _) => none
  | (0 :: _ :: _, _) => none
  | (ds, rest) => tail negative (whole ds) rest

end Numeral
end OnionSwarm.Json

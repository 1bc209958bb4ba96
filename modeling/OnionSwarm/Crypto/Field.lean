/-
Arithmetic modulo the prime `2 ^ 255 - 19`, on natural numbers below it.
-/
import OnionSwarm.Text.Bytes

namespace OnionSwarm.Field

/-- The prime. -/
def prime : Nat := Nat.pow 2 255 - 19

/-- The sum. -/
def add (a b : Nat) : Nat := (a + b) % prime

/-- The difference. -/
def sub (a b : Nat) : Nat := (a + prime - b % prime) % prime

/-- The product. -/
def mul (a b : Nat) : Nat := a * b % prime

/-- `base ^ exponent`, the exponent given by its lowest `bits` bits. -/
def power : (bits : Nat) → (base exponent : Nat) → Nat
  | 0, _, _ => 1
  | bits + 1, base, exponent =>
    let rest := power bits (mul base base) (exponent / 2)
    if exponent % 2 = 1 then mul base rest else rest

/-- The inverse; zero for zero. -/
def inverse (a : Nat) : Nat := power 255 a (prime - 2)

/-- A square root of minus one. -/
def rootOfMinusOne : Nat := power 255 2 ((prime - 1) / 4)

/-- A square root of `u / v`, if there is one. -/
def root? (u v : Nat) : Option Nat :=
  let v3 := mul (mul v v) v
  let v7 := mul (mul v3 v3) v
  let r := mul (mul u v3) (power 255 (mul u v7) ((prime - 5) / 8))
  let check := mul v (mul r r)
  if check = u % prime then some r
  else if check = sub 0 u then some (mul r rootOfMinusOne)
  else none

/-- The number of 32 bytes, without the highest bit. -/
def ofBytes (bytes : Bytes) : Nat := Bytes.toNatLittle bytes % Nat.pow 2 255 % prime

/-- The 32 bytes of a number. -/
def toBytes (a : Nat) : Bytes := Bytes.littleEndian 32 a

end OnionSwarm.Field

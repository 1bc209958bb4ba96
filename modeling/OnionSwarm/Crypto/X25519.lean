/-
The key agreement X25519: multiplication on the Montgomery curve `v² = u³ + 486662 u² + u`, where
points are known by `u` alone.
-/
import OnionSwarm.Crypto.Field

namespace OnionSwarm.X25519

/-- Two neighbouring multiples of a point, each as a fraction. -/
structure Ladder where
  x2 : Nat
  z2 : Nat
  x3 : Nat
  z3 : Nat

/-- Goes from the multiples `n` and `n + 1` to `2 n` and `2 n + 1`. -/
def Ladder.double (u : Nat) (l : Ladder) : Ladder :=
  let a := Field.add l.x2 l.z2
  let aa := Field.mul a a
  let b := Field.sub l.x2 l.z2
  let bb := Field.mul b b
  let e := Field.sub aa bb
  let da := Field.mul (Field.sub l.x3 l.z3) a
  let cb := Field.mul (Field.add l.x3 l.z3) b
  let sum := Field.add da cb
  let difference := Field.sub da cb
  { x3 := Field.mul sum sum
    z3 := Field.mul u (Field.mul difference difference)
    x2 := Field.mul aa bb
    z2 := Field.mul e (Field.add aa (Field.mul 121665 e)) }

/-- The same ladder with its two multiples exchanged. -/
def Ladder.swap (l : Ladder) : Ladder := ⟨l.x3, l.z3, l.x2, l.z2⟩

/-- Takes the lowest `bits` bits of the scalar, from the highest of them on. -/
def climb (u scalar : Nat) : (bits : Nat) → Ladder → Ladder
  | 0, l => l
  | bits + 1, l =>
    let l := if scalar.testBit bits then (l.swap.double u).swap else l.double u
    climb u scalar bits l

/-- The scalar of a secret: a multiple of eight with its highest bit fixed. -/
def clamp (secret : Bytes) : Nat :=
  let n := Bytes.toNatLittle secret
  Nat.pow 2 254 + n % Nat.pow 2 254 / 8 * 8

/-- What a secret and a public key share. -/
def multiply (secret key : Bytes) : Bytes :=
  let u := Field.ofBytes key
  let l := climb u (clamp secret) 255 ⟨1, 0, u, 1⟩
  Field.toBytes (Field.mul l.x2 (Field.inverse l.z2))

/-- The point that public keys are multiples of. -/
def base : Bytes := 9 :: Bytes.fill 31 0

/-- The public key of a secret. -/
def publicKey (secret : Bytes) : Bytes := multiply secret base

end OnionSwarm.X25519

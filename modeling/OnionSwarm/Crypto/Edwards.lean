/-
Points of the twisted Edwards curve `-x² + y² = 1 + d x² y²`.
-/
import OnionSwarm.Crypto.Field

namespace OnionSwarm

/-- A point as `x / z`, `y / z`, with `t / z` the product of the two. -/
structure Edwards where
  x : Nat
  y : Nat
  z : Nat
  t : Nat

namespace Edwards

/-- The number of points of the subgroup. -/
def order : Nat := Nat.pow 2 252 + 27742317777372353535851937790883648493

/-- The coefficient of the curve, `-121665 / 121666`. -/
def d : Nat :=
  37095705934669439343138083508754565189542113879843219016388785533085940283555

/-- The neutral point. -/
def zero : Edwards := ⟨0, 1, 1, 0⟩

/-- The point of known coordinates. -/
def ofXY (x y : Nat) : Edwards := ⟨x, y, 1, Field.mul x y⟩

/-- The point that public keys are multiples of. -/
def base : Edwards :=
  ofXY 15112221349535400772501151409588531511454012693041857206046113283949847762202
    46316835694926478169428394003475163141307993866256225615783033603165251855960

/-- The sum of two points. -/
def add (p q : Edwards) : Edwards :=
  let a := Field.mul (Field.sub p.y p.x) (Field.sub q.y q.x)
  let b := Field.mul (Field.add p.y p.x) (Field.add q.y q.x)
  let c := Field.mul (Field.mul p.t (Field.mul 2 d)) q.t
  let e := Field.mul (Field.mul p.z 2) q.z
  let f := Field.sub b a
  let g := Field.sub e c
  let h := Field.add e c
  let i := Field.add b a
  ⟨Field.mul f g, Field.mul h i, Field.mul g h, Field.mul f i⟩

/-- The opposite point. -/
def neg (p : Edwards) : Edwards := ⟨Field.sub 0 p.x, p.y, p.z, Field.sub 0 p.t⟩

/-- The multiple of a point by the lowest `bits` bits of a scalar. -/
def multiply : (bits : Nat) → (scalar : Nat) → Edwards → Edwards
  | 0, _, _ => zero
  | bits + 1, scalar, p =>
    let rest := multiply bits (scalar / 2) (p.add p)
    if scalar % 2 = 1 then p.add rest else rest

/-- The coordinates of a point. -/
def toXY (p : Edwards) : Nat × Nat :=
  let inverse := Field.inverse p.z
  (Field.mul p.x inverse, Field.mul p.y inverse)

/-- The 32 bytes of a point: `y`, and the lowest bit of `x` as the highest bit. -/
def toBytes (p : Edwards) : Bytes :=
  let (x, y) := p.toXY
  Field.toBytes (y + x % 2 * Nat.pow 2 255)

/-- The point of 32 bytes, if there is one. -/
def ofBytes? (bytes : Bytes) : Option Edwards := do
  let y := Field.ofBytes bytes
  let negative := Bytes.toNatLittle bytes / Nat.pow 2 255 % 2
  let yy := Field.mul y y
  let x ← Field.root? (Field.sub yy 1) (Field.add (Field.mul d yy) 1)
  return ofXY (if x % 2 = negative then x else Field.sub 0 x) y

/-- The point's place on the Montgomery curve, `(1 + y) / (1 - y)`. -/
def toMontgomery (p : Edwards) : Bytes :=
  let (_, y) := p.toXY
  Field.toBytes (Field.mul (Field.add 1 y) (Field.inverse (Field.sub 1 y)))

end Edwards
end OnionSwarm

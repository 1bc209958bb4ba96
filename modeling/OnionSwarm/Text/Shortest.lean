/-
The fewest decimal digits that read back as a given double.

A positive finite double is `m · 2 ^ q`.  The reals that round to it form an interval between the
midpoints to its neighbours; the ends belong to it exactly when `m` is even.  For each number of
digits, from one upwards, the two multiples of a power of ten next to the double are tested; the
first grid that has one of them in the interval gives the digits, the nearer one if both are, and
the even one if both are equally near.
All of it is exact arithmetic on natural numbers.
-/

namespace OnionSwarm.Text.Shortest

/-- A positive finite double `m · 2 ^ (e - 1074)`. -/
structure Double where
  /-- The significand, with its leading bit. -/
  m : Nat
  /-- The binary exponent, counted from that of the least positive double. -/
  e : Nat
  deriving DecidableEq, Repr

/-- The magnitude of the double with these bits; none for infinity and for what is no number. -/
def magnitude? (bits : UInt64) : Option Double :=
  let n := bits.toNat
  let exponent := n / Nat.pow 2 52 % 2048
  let fraction := n % Nat.pow 2 52
  if exponent = 2047 then none
  else if exponent = 0 then some ⟨fraction, 0⟩
  else some ⟨fraction + Nat.pow 2 52, exponent - 1⟩

/-- Has the double with these bits its sign bit set? -/
def isNegative (bits : UInt64) : Bool := Nat.pow 2 63 ≤ bits.toNat

/-- A quarter of the double's last place times `4 m`, in units of `2 ^ (-1076)`: the double itself,
and the two ends of its interval. -/
structure Span where
  low : Nat
  value : Nat
  high : Nat
  /-- Do the ends themselves round to the double? -/
  closed : Bool

/-- The interval of a double.  Below a power of two the gap to the neighbour is half as wide. -/
def Double.span (d : Double) : Span :=
  let gap := if d.m = Nat.pow 2 52 ∧ 0 < d.e then 1 else 2
  ⟨(4 * d.m - gap) * Nat.pow 2 d.e, 4 * d.m * Nat.pow 2 d.e, (4 * d.m + 2) * Nat.pow 2 d.e, d.m % 2 = 0⟩

/-- Does `num / den`, in the units of the span, lie in it? -/
def Span.holds (s : Span) (num den : Nat) : Bool :=
  if s.closed then s.low * den ≤ num && num ≤ s.high * den
  else s.low * den < num && num < s.high * den

/-- The multiple of `10 ^ k` near the double, if one is in its interval; `k` is counted from
`10 ^ (-400)`. -/
def Span.hit? (s : Span) (k : Nat) : Option Nat :=
  -- one step of the grid is `num / den` in the units of the span
  let num := Nat.pow 2 1076 * Nat.pow 10 (k - 400)
  let den := Nat.pow 10 (400 - k)
  let below := s.value * den / num
  let lowHit := s.holds (below * num) den
  let highHit := s.holds ((below + 1) * num) den
  let twiceOver := 2 * (s.value * den - below * num)
  let nearerBelow := twiceOver < num || (twiceOver = num && below % 2 = 0)
  match lowHit, highHit with
  | true, true => some (if nearerBelow then below else below + 1)
  | true, false => some below
  | false, true => some (below + 1)
  | false, false => none

/-- Tries grids downwards from `10 ^ k`, at most `tries` of them. -/
def search (s : Span) : (tries k : Nat) → Nat × Nat
  | 0, k => (0, k)
  | tries + 1, k =>
    match s.hit? k with
    | some n => (n, k)
    | none => search s tries (k - 1)

/-- Drops factors of ten. -/
def stripZeros : (tries : Nat) → Nat × Nat → Nat × Nat
  | 0, nk => nk
  | tries + 1, (n, k) => if n % 10 = 0 ∧ 0 < n then stripZeros tries (n / 10, k + 1) else (n, k)

/-- How many decimal digits a number has. -/
def digitCount (n : Nat) : Nat := (Nat.toDigits 10 n).length

/-- The power of ten just below the double, counted from `10 ^ (-400)`. -/
def Double.leading (d : Double) : Nat :=
  -- `m · 2 ^ e · 10 ^ 400 / 2 ^ 1074` has this many digits
  digitCount (d.m * Nat.pow 2 d.e * Nat.pow 10 400 / Nat.pow 2 1074) - 1

/-- The digits of a positive double as a number without factors of ten, and the power of ten that
it is multiplied by. -/
def digits (d : Double) : Nat × Int :=
  let (n, k) := stripZeros 20 (search d.span 20 d.leading)
  (n, (k : Int) - 400)

/-- Which numbers are written without an exponent. -/
structure Layout where
  /-- Numbers with at most this many digits before the point are written out. -/
  longestWhole : Nat
  /-- Numbers with at most this many zeros after the point are written out. -/
  longestZeros : Nat

/-- The text of the positive number `n · 10 ^ k`, where `n` has no factor of ten.  An exponent
always has a sign. -/
def Layout.render (l : Layout) (n : Nat) (k : Int) : String :=
  let ds := Nat.toDigits 10 n
  let count : Int := ds.length
  let point := count + k
  if 0 ≤ k ∧ point ≤ l.longestWhole then
    String.ofList (ds ++ List.replicate k.toNat '0' ++ ['.', '0'])
  else if 0 < point ∧ point ≤ l.longestWhole then
    String.ofList (ds.take point.toNat ++ ['.'] ++ ds.drop point.toNat)
  else if -(l.longestZeros : Int) ≤ point ∧ point ≤ 0 then
    String.ofList (['0', '.'] ++ List.replicate (-point).toNat '0' ++ ds)
  else
    let exponent := (if point ≤ 0 then "" else "+") ++ toString (point - 1)
    match ds with
    | [d] => String.ofList [d, 'e'] ++ exponent
    | d :: rest => String.ofList (d :: '.' :: rest ++ ['e']) ++ exponent
    | [] => exponent

end OnionSwarm.Text.Shortest

/-
Byte strings.

Everything that travels between the client, its relays and its store is a byte string, kept as a
plain list: messages are cut and joined far more often than they are indexed, and a list is what
the statements about them quantify over.
-/

namespace OnionSwarm

/-- A byte string. -/
abbrev Bytes := List UInt8

namespace Bytes

/-- The UTF-8 form of a text. -/
def ofString (text : String) : Bytes :=
  text.toList.flatMap String.utf8EncodeChar

/-- `count` bytes of one value. -/
def fill (count : Nat) (value : UInt8) : Bytes :=
  List.replicate count value

/-- The `count` bytes of `n`, least significant first; higher bytes of `n` are lost. -/
def littleEndian : (count n : Nat) → Bytes
  | 0, _ => []
  | count + 1, n => UInt8.ofNat (n % 256) :: littleEndian count (n / 256)

/-- The number whose least significant byte comes first. -/
def toNatLittle : Bytes → Nat
  | [] => 0
  | b :: rest => b.toNat + 256 * toNatLittle rest

/-- The number whose most significant byte comes first. -/
def toNatBig (bytes : Bytes) : Nat :=
  bytes.foldl (fun n b => 256 * n + b.toNat) 0

/-- The `count` bytes of `n`, most significant first. -/
def bigEndian (count n : Nat) : Bytes :=
  (littleEndian count n).reverse

/-- Does `marker` occur somewhere in `bytes`? -/
def includes (marker : Bytes) : (bytes : Bytes) → Bool
  | [] => marker.isEmpty
  | b :: rest => marker.isPrefixOf (b :: rest) || includes marker rest

/-- What follows `marker` if the byte string starts with it. -/
def after? : (marker bytes : Bytes) → Option Bytes
  | [], bytes => some bytes
  | _ :: _, [] => none
  | m :: marker, b :: bytes => if m = b then after? marker bytes else none

/-- Byte by byte order, a proper beginning before what continues it. -/
def precedes : Bytes → Bytes → Bool
  | _, [] => false
  | [], _ :: _ => true
  | a :: as, b :: bs => a < b || (a == b && precedes as bs)

@[simp] theorem length_littleEndian (count n : Nat) :
    (littleEndian count n).length = count := by
  induction count generalizing n with
  | zero => rfl
  | succ count ih => simp [littleEndian, ih]

/-- Writing a number and reading it back keeps it modulo the space it was given. -/
theorem toNatLittle_littleEndian (count n : Nat) :
    toNatLittle (littleEndian count n) = n % Nat.pow 256 count := by
  induction count generalizing n with
  | zero => simp [littleEndian, toNatLittle, Nat.mod_one]
  | succ count ih =>
    have low : (UInt8.ofNat (n % 256)).toNat = n % 256 := by simp
    simp only [littleEndian, toNatLittle, ih, low]
    have step : Nat.pow 256 (count + 1) = 256 * Nat.pow 256 count := Nat.mul_comm _ _
    rw [step, Nat.mod_mul]

theorem after?_append (marker bytes : Bytes) : after? marker (marker ++ bytes) = some bytes := by
  induction marker with
  | nil => cases bytes <;> rfl
  | cons m marker ih => simp [after?, ih]

end Bytes
end OnionSwarm

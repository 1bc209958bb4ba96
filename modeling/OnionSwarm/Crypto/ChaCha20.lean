/-
The stream cipher ChaCha20, and HChaCha20, which derives a key from a key and a longer nonce.
-/
import OnionSwarm.Text.Bytes

namespace OnionSwarm.ChaCha20

/-- Sixteen words. -/
abbrev State := Array UInt32

/-- The word at a place. -/
def word (s : State) (i : Nat) : UInt32 := s.getD i 0

/-- Rotation to the left. -/
def rotate (x n : UInt32) : UInt32 := (x <<< n) ||| (x >>> (32 - n))

/-- The four words `x`, `x` mixed into `z`: adds `y` to `x`, and turns what `z` differs in. -/
def mix (s : State) (x y z : Nat) (n : UInt32) : State :=
  let sum := word s x + word s y
  let s := s.setIfInBounds x sum
  s.setIfInBounds z (rotate (word s z ^^^ sum) n)

/-- Mixes four words. -/
def quarter (s : State) (a b c d : Nat) : State :=
  let s := mix s a b d 16
  let s := mix s c d b 12
  let s := mix s a b d 8
  mix s c d b 7

/-- Mixes the columns, then the diagonals. -/
def doubleRound (s : State) : State :=
  let s := quarter s 0 4 8 12
  let s := quarter s 1 5 9 13
  let s := quarter s 2 6 10 14
  let s := quarter s 3 7 11 15
  let s := quarter s 0 5 10 15
  let s := quarter s 1 6 11 12
  let s := quarter s 2 7 8 13
  quarter s 3 4 9 14

/-- Repeats the double round. -/
def rounds : (count : Nat) → State → State
  | 0, s => s
  | count + 1, s => rounds count (doubleRound s)

/-- The words of a byte string, least significant byte first. -/
def words : Bytes → List UInt32
  | a :: b :: c :: d :: rest => UInt32.ofNat (Bytes.toNatLittle [a, b, c, d]) :: words rest
  | _ => []

/-- The bytes of words. -/
def toBytes (ws : List UInt32) : Bytes := ws.flatMap fun w => Bytes.littleEndian 4 w.toNat

/-- The words that every state begins with. -/
def constants : List UInt32 := [0x61707865, 0x3320646e, 0x79622d32, 0x6b206574]

/-- The state of a key of 32 bytes and 16 bytes of counter and nonce. -/
def start (key nonce : Bytes) : State := (constants ++ words key ++ words nonce).toArray

/-- A block of the key stream: 64 bytes for a counter and a nonce of 12 bytes. -/
def block (key : Bytes) (counter : Nat) (nonce : Bytes) : Bytes :=
  let s := start key (Bytes.littleEndian 4 counter ++ nonce)
  let mixed := rounds 10 s
  toBytes (List.zipWith (· + ·) mixed.toList s.toList)

/-- The key for a nonce of 16 bytes: the rounds without the final addition, first and last row. -/
def deriveKey (key nonce : Bytes) : Bytes :=
  let mixed := (rounds 10 (start key nonce)).toList
  toBytes (mixed.take 4 ++ mixed.drop 12)

/-- Adds `count` blocks of the key stream to the text. -/
def streamBlocks (key nonce : Bytes) : (count counter : Nat) → Bytes → Bytes
  | 0, _, _ => []
  | count + 1, counter, text =>
    List.zipWith (· ^^^ ·) (text.take 64) (block key counter nonce) ++
      streamBlocks key nonce count (counter + 1) (text.drop 64)

/-- Encrypts or decrypts, the key stream starting at the given block. -/
def stream (key nonce : Bytes) (counter : Nat) (text : Bytes) : Bytes :=
  streamBlocks key nonce ((text.length + 63) / 64) counter text

end OnionSwarm.ChaCha20

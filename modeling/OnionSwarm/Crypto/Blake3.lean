/-
Key derivation with BLAKE3, for contexts and key material of at most one chunk of 1024 bytes.

A chunk is taken in blocks of 64 bytes, each mixed into a state of eight words.  The context is
hashed first, and its hash is the key under which the material is hashed.
-/
import OnionSwarm.Text.Bytes

namespace OnionSwarm.Blake3

/-- The words that a state starts from. -/
def start : List UInt32 :=
  [0x6a09e667, 0xbb67ae85, 0x3c6ef372, 0xa54ff53a, 0x510e527f, 0x9b05688c, 0x1f83d9ab, 0x5be0cd19]

/-- Marks the first block of a chunk. -/
def chunkStart : UInt32 := 1

/-- Marks the last block of a chunk. -/
def chunkEnd : UInt32 := 2

/-- Marks the last block of all. -/
def rootNode : UInt32 := 8

/-- Marks the hash of a context. -/
def contextMode : UInt32 := 32

/-- Marks the hash of key material. -/
def materialMode : UInt32 := 64

/-- How many bytes a block has. -/
def blockLength : Nat := 64

/-- The word at a place. -/
def word (s : Array UInt32) (i : Nat) : UInt32 := s.getD i 0

/-- Rotation to the right. -/
def rotate (x n : UInt32) : UInt32 := (x >>> n) ||| (x <<< (32 - n))

/-- Mixes four words with two words of the message. -/
def quarter (s : Array UInt32) (a b c d : Nat) (x y : UInt32) : Array UInt32 :=
  let va := word s a + word s b + x
  let vd := rotate (word s d ^^^ va) 16
  let vc := word s c + vd
  let vb := rotate (word s b ^^^ vc) 12
  let va := va + vb + y
  let vd := rotate (vd ^^^ va) 8
  let vc := vc + vd
  let vb := rotate (vb ^^^ vc) 7
  (((s.setIfInBounds a va).setIfInBounds b vb).setIfInBounds c vc).setIfInBounds d vd

/-- Mixes the columns, then the diagonals, with the sixteen words of the message. -/
def round (s m : Array UInt32) : Array UInt32 :=
  let s := quarter s 0 4 8 12 (word m 0) (word m 1)
  let s := quarter s 1 5 9 13 (word m 2) (word m 3)
  let s := quarter s 2 6 10 14 (word m 4) (word m 5)
  let s := quarter s 3 7 11 15 (word m 6) (word m 7)
  let s := quarter s 0 5 10 15 (word m 8) (word m 9)
  let s := quarter s 1 6 11 12 (word m 10) (word m 11)
  let s := quarter s 2 7 8 13 (word m 12) (word m 13)
  quarter s 3 4 9 14 (word m 14) (word m 15)

/-- The order in which the next round takes the words of the message. -/
def order : List Nat := [2, 6, 3, 10, 7, 0, 4, 13, 1, 11, 12, 5, 9, 14, 15, 8]

/-- Repeats the round. -/
def rounds : (count : Nat) → (s m : Array UInt32) → Array UInt32
  | 0, s, _ => s
  | count + 1, s, m => rounds count (round s m) (order.map (word m)).toArray

/-- The words of a byte string, least significant byte first. -/
def words : Bytes → List UInt32
  | a :: b :: c :: d :: rest => UInt32.ofNat (Bytes.toNatLittle [a, b, c, d]) :: words rest
  | _ => []

/-- Mixes a block into a state and gives the next state. -/
def compress (state : List UInt32) (block : Bytes) (flags : UInt32) : List UInt32 :=
  let padded := block ++ Bytes.fill (blockLength - block.length) 0
  let s := state ++ start.take 4 ++ [0, 0, UInt32.ofNat block.length, flags]
  let mixed := (rounds 7 s.toArray (words padded).toArray).toList
  List.zipWith (· ^^^ ·) (mixed.take 8) (mixed.drop 8)

/-- Hashes the blocks of a chunk, of which `more` follow the first. -/
def chunk (mode : UInt32) : (more : Nat) → (opening : UInt32) → List UInt32 → Bytes → List UInt32
  | 0, opening, state, bytes => compress state bytes (mode ||| opening ||| chunkEnd ||| rootNode)
  | more + 1, opening, state, bytes =>
    chunk mode more 0 (compress state (bytes.take blockLength) (mode ||| opening))
      (bytes.drop blockLength)

/-- The hash of a chunk under a key. -/
def hash (mode : UInt32) (key : List UInt32) (bytes : Bytes) : List UInt32 :=
  chunk mode ((bytes.length - 1) / blockLength) chunkStart key bytes

/-- The key of 32 bytes that a context derives from key material. -/
def deriveKey (context material : Bytes) : Bytes :=
  let key := hash contextMode start context
  (hash materialMode key material).flatMap fun w => Bytes.littleEndian 4 w.toNat

end OnionSwarm.Blake3

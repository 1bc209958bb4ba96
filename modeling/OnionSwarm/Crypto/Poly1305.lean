/-
The message authenticator Poly1305: the message as a polynomial, evaluated modulo `2 ^ 130 - 5` at a
secret point, plus a secret number.
-/
import OnionSwarm.Text.Bytes

namespace OnionSwarm.Poly1305

/-- The prime. -/
def prime : Nat := Nat.pow 2 130 - 5

/-- The bits of the secret point that are kept. -/
def mask : Nat := 0x0ffffffc0ffffffc0ffffffc0fffffff

/-- Takes `count` blocks of 16 bytes; each counts with a one behind its last byte. -/
def evaluate (point : Nat) : (count : Nat) → (sum : Nat) → Bytes → Nat
  | 0, sum, _ => sum
  | count + 1, sum, message =>
    let block := message.take 16
    let n := Bytes.toNatLittle block + Nat.pow 256 block.length
    evaluate point count ((sum + n) * point % prime) (message.drop 16)

/-- The tag of a message under a key of 32 bytes. -/
def tag (key message : Bytes) : Bytes :=
  let point := Bytes.toNatLittle (key.take 16) &&& mask
  let sum := evaluate point ((message.length + 15) / 16) 0 message
  Bytes.littleEndian 16 (sum + Bytes.toNatLittle (key.drop 16))

end OnionSwarm.Poly1305

/-
Ed25519 signatures.

A signature is valid if its scalar is below the order and the point computed from it has exactly
the bytes that the signature begins with.
-/
import OnionSwarm.Crypto.Edwards
import OnionSwarm.Crypto.Sha512

namespace OnionSwarm.Ed25519

/-- What a secret of 32 bytes stands for. -/
structure Secret where
  scalar : Nat
  /-- Makes the random part of a signature depend on the secret. -/
  salt : Bytes

/-- Expands a secret. -/
def expand (secret : Bytes) : Secret :=
  let h := Sha512.hash secret
  let n := Bytes.toNatLittle (h.take 32)
  ⟨Nat.pow 2 254 + n % Nat.pow 2 254 / 8 * 8, h.drop 32⟩

/-- The public point of a secret. -/
def publicPoint (secret : Bytes) : Edwards :=
  Edwards.base.multiply 255 (expand secret).scalar

/-- The public key of a secret. -/
def publicKey (secret : Bytes) : Bytes := (publicPoint secret).toBytes

/-- The scalar of a hash. -/
def hashScalar (message : Bytes) : Nat := Bytes.toNatLittle (Sha512.hash message) % Edwards.order

/-- The signature of a message, 64 bytes. -/
def sign (secret message : Bytes) : Bytes :=
  let s := expand secret
  let key := publicKey secret
  let r := hashScalar (s.salt ++ message)
  let point := (Edwards.base.multiply 255 r).toBytes
  let k := hashScalar (point ++ key ++ message)
  point ++ Bytes.littleEndian 32 ((r + k * s.scalar) % Edwards.order)

/-- Is the signature valid for a key that is the given point? -/
def verify (key : Bytes) (point : Edwards) (message signature : Bytes) : Bool :=
  let start := signature.take 32
  let s := Bytes.toNatLittle (signature.drop 32)
  if s < Edwards.order then
    let k := hashScalar (start ++ key ++ message)
    ((Edwards.base.multiply 255 s).add (point.neg.multiply 255 k)).toBytes == start
  else false

end OnionSwarm.Ed25519

/-
Authenticated encryption with XChaCha20 and Poly1305.

The nonce has 24 bytes: with the first 16 the key is derived that the other eight are used with.
The first block of the key stream is the key of the tag, and the text starts with the second.
-/
import OnionSwarm.Crypto.ChaCha20
import OnionSwarm.Crypto.Poly1305

namespace OnionSwarm.SecretBox

/-- How many bytes a nonce has. -/
def nonceLength : Nat := 24

/-- How many bytes a tag has. -/
def tagLength : Nat := 16

/-- The key and the nonce of the inner cipher. -/
def inner (key nonce : Bytes) : Bytes × Bytes :=
  (ChaCha20.deriveKey key (nonce.take 16), Bytes.fill 4 0 ++ nonce.drop 16)

/-- The tag of a ciphertext: padded to whole blocks, with the lengths of what is authenticated. -/
def tag (key nonce ciphertext : Bytes) : Bytes :=
  let zeros := (16 - ciphertext.length % 16) % 16
  Poly1305.tag ((ChaCha20.block key 0 nonce).take 32)
    (ciphertext ++ Bytes.fill zeros 0 ++ Bytes.littleEndian 8 0 ++
      Bytes.littleEndian 8 ciphertext.length)

/-- Encrypts: the ciphertext with its tag behind it. -/
def encrypt (key nonce text : Bytes) : Bytes :=
  let (key, nonce) := inner key nonce
  let ciphertext := ChaCha20.stream key nonce 1 text
  ciphertext ++ tag key nonce ciphertext

/-- Decrypts, if the tag is right. -/
def decrypt? (key nonce sealedText : Bytes) : Option Bytes :=
  let (key, nonce) := inner key nonce
  let length := sealedText.length - tagLength
  let ciphertext := sealedText.take length
  if sealedText.drop length = tag key nonce ciphertext then
    some (ChaCha20.stream key nonce 1 ciphertext)
  else none

end OnionSwarm.SecretBox

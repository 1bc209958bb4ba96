/-
The encryption of one onion layer.

A layer is encrypted to the X25519 key of its recipient.  The sender makes a key pair for this layer
alone; what it shares with the recipient's key gives the key of the layer, which the recipient can
derive too and seals its reply with.

A cipher is a pair of functions.  Encryption takes a number as well, which stands for the chance in
it: the same number gives the same layer, and a client never uses a number twice.
-/
import OnionSwarm.Crypto.Blake3
import OnionSwarm.Crypto.Failure
import OnionSwarm.Crypto.SecretBox
import OnionSwarm.Crypto.X25519

namespace OnionSwarm

/-- An encrypted layer, as its sender has it. -/
structure Layer where
  ciphertext : Bytes
  /-- The public key made for this layer. -/
  ephemeral : Bytes
  /-- The key that sender and recipient share. -/
  key : Bytes
  deriving DecidableEq, Repr

/-- A way to encrypt layers and to open replies. -/
structure LayerCipher where
  /-- Encrypts a text to a recipient's key, with the given number for chance. -/
  encrypt : (turn : Nat) → (text recipient : Bytes) → Except CryptoFailure Layer
  /-- Opens what was sealed with the key of a layer. -/
  decrypt : (ciphertext key : Bytes) → Except CryptoFailure Bytes

namespace LayerCipher

/-! ### The cipher of the network -/

/-- What the keys of layers are derived for. -/
def purpose : Bytes := Bytes.ofString "swarmnet v1 onion layer 2026-03-14"

/-- The key of a layer from what both sides share. -/
def deriveKey (shared : Bytes) : Bytes := Blake3.deriveKey purpose shared

/-- Encrypts with the key of a layer: the nonce, then the ciphertext. -/
def sealWith (key nonce text : Bytes) : Bytes := nonce ++ SecretBox.encrypt key nonce text

/-- Opens what was encrypted with the key of a layer. -/
def openWith (key bytes : Bytes) : Except CryptoFailure Bytes :=
  if bytes.length < SecretBox.nonceLength + SecretBox.tagLength then
    .error (.truncated bytes.length)
  else
    match SecretBox.decrypt? key (bytes.take SecretBox.nonceLength)
        (bytes.drop SecretBox.nonceLength) with
    | some text => .ok text
    | none => .error .decryption

/-- The recipient's side: the text of a layer and its key. -/
def openLayer (secret ephemeral ciphertext : Bytes) : Except CryptoFailure (Bytes × Bytes) :=
  let key := deriveKey (X25519.multiply secret ephemeral)
  match openWith key ciphertext with
  | .ok text => .ok (text, key)
  | .error e => .error e

/-- The random bytes of one encryption. -/
structure Chance where
  secret : Bytes
  nonce : Bytes

/-- The cipher of the network, given the random bytes of each encryption.  A recipient's key that
shares the same with every secret is refused. -/
def standard (chance : Nat → Chance) : LayerCipher where
  encrypt turn text recipient :=
    let c := chance turn
    let shared := X25519.multiply c.secret recipient
    if shared.all (· == 0) then .error (.badKey "low-order X25519 key")
    else
      let key := deriveKey shared
      .ok ⟨sealWith key c.nonce text, X25519.publicKey c.secret, key⟩
  decrypt ciphertext key := openWith key ciphertext

/-! ### A cipher without secrets

It hides nothing, but it keeps what the other layers of the library rely on: a layer opens with its
own key only, and layers of different numbers have different keys. -/

/-- How many bytes of the key mark a ciphertext. -/
def markLength : Nat := 4

/-- Opens a marked text. -/
def unmark (bytes key : Bytes) : Except CryptoFailure Bytes :=
  if bytes.length < markLength then .error (.truncated bytes.length)
  else if bytes.take markLength = key.take markLength then .ok (bytes.drop markLength)
  else .error .decryption

/-- The key of a layer is the recipient's key, each byte changed by the number; the ciphertext is
the text behind the first bytes of the key. -/
def transparent : LayerCipher where
  encrypt turn text recipient :=
    if recipient.all (· == 0) then .error (.badKey "low-order X25519 key")
    else
      let number := UInt8.ofNat turn
      let key := recipient.map (· ^^^ number)
      .ok ⟨key.take markLength ++ text, Bytes.fill 32 number, key⟩
  decrypt ciphertext key := unmark ciphertext key

end LayerCipher
end OnionSwarm

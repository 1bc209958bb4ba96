/-
The identity of an account: the Ed25519 key pair that its calls are signed with.
-/
import OnionSwarm.Crypto.Ed25519
import OnionSwarm.Crypto.Failure
import OnionSwarm.Text.Base64
import OnionSwarm.Text.Hex

namespace OnionSwarm

/-- A secret key of 32 bytes. -/
structure Identity where
  secret : Bytes
  deriving DecidableEq, Repr

namespace Identity

/-- The beginning of the id of an account that is not blinded. -/
def accountMark : String := "05"

/-- The identity of a secret. -/
def ofBytes (secret : Bytes) : Except CryptoFailure Identity :=
  if secret.length = 32 then .ok ⟨secret⟩
  else .error (.badKey ("expected 32 bytes, got " ++ toString secret.length))

/-- The public key, in hexadecimal. -/
def publicKey (i : Identity) : String := Text.Hex.encode (Ed25519.publicKey i.secret)

/-- The account's id: the X25519 form of the public key behind a mark. -/
def account (i : Identity) : String :=
  accountMark ++ Text.Hex.encode (Ed25519.publicPoint i.secret).toMontgomery

/-- Signs a message, the signature in base64. -/
def sign (i : Identity) (message : Bytes) : String :=
  Text.Base64.encode (Ed25519.sign i.secret message)

/-- The identity in logs, without its secret. -/
def render (i : Identity) : String :=
  "SwarmAuth \x7b account_id: \"" ++ i.account ++ "\", .. \x7d"

/-- Is the signature in base64 valid for the public key in hexadecimal?  The key is judged first. -/
def verify (message : Bytes) (signature key : String) : Except CryptoFailure Bool :=
  match Text.Hex.decode key with
  | .error e => .error (.badKey e.message)
  | .ok key =>
    if key.length ≠ 32 then .error (.badKey "expected 32 bytes")
    else
      match Edwards.ofBytes? key with
      | none => .error (.badKey "signature error: Cannot decompress Edwards point")
      | some point =>
        match Text.Base64.decode? signature with
        | none => .error .decryption
        | some bytes =>
          if bytes.length ≠ 64 then .error .decryption
          else .ok (Ed25519.verify key point message bytes)

end Identity
end OnionSwarm

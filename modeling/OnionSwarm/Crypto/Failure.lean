/-
What can go wrong with keys and ciphertexts.
-/

namespace OnionSwarm

/-- Why a cryptographic operation failed. -/
inductive CryptoFailure where
  | encryption (reason : String)
  /-- The ciphertext is not what anyone encrypted with the key. -/
  | decryption
  /-- The ciphertext is too short to hold a nonce and a tag. -/
  | truncated (length : Nat)
  | badKey (reason : String)
  deriving DecidableEq, Repr

/-- The wording of a failure. -/
def CryptoFailure.message : CryptoFailure → String
  | .encryption reason => "Encryption failed: " ++ reason
  | .decryption => "Decryption failed: invalid ciphertext or wrong key"
  | .truncated length => "Ciphertext too short (" ++ toString length ++ " bytes)"
  | .badKey reason => "Invalid public key: " ++ reason

end OnionSwarm

/-
Chance for layers, drawn from a seed.

Each layer uses a secret key and a nonce of its own: parts of a hash of the seed and the number of
the layer.  Who knows the seed knows all of them, so a seed is as secret as the keys.
-/
import OnionSwarm.Crypto.LayerCipher
import OnionSwarm.Crypto.Sha512

namespace OnionSwarm.LayerCipher

/-- The random bytes of each layer. -/
def Chance.ofSeed (seed : Bytes) (turn : Nat) : Chance :=
  let h := Sha512.hash (seed ++ Bytes.littleEndian 8 turn)
  ⟨h.take 32, (h.drop 32).take 24⟩

end OnionSwarm.LayerCipher

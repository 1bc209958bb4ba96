/-
Peeling an onion: what the hops and the destination do with the layers that reach them.

A hop opens its layer with its secret and the public key that came with it.  Inside it finds the
next layer and its instructions, which also hold the public key of that layer.
-/
import OnionSwarm.Crypto.LayerCipher
import OnionSwarm.Onion.Framing
import OnionSwarm.Text.Hex

namespace OnionSwarm.Onion

/-- How the holder of a secret opens a layer that came with a public key: the text, and the key of
the layer. -/
abbrev Opener := (secret ephemeral ciphertext : Bytes) → Except CryptoFailure (Bytes × Bytes)

/-- What a hop finds in its layer. -/
structure Peeled where
  /-- The next layer. -/
  inner : Bytes
  routing : Json
  deriving Repr

namespace Peeled

/-- The public key of the next layer. -/
def ephemeral? (p : Peeled) : Option Bytes := do
  let text ← (p.routing.get? "ephemeral_key").bind Json.asText?
  match Text.Hex.decode text with
  | .ok bytes => some bytes
  | .error _ => none

/-- The instructions without the public key. -/
def directions (p : Peeled) : Json :=
  match p.routing with
  | .object members => .object (members.filter fun m => m.1 != "ephemeral_key")
  | other => other

end Peeled

/-- Opens the layer of one hop. -/
def peelHop (opener : Opener) (secret ephemeral ciphertext : Bytes) : Option Peeled :=
  match opener secret ephemeral ciphertext with
  | .error _ => none
  | .ok (text, _) =>
    match Framing.decodePayload text with
    | .ok (inner, routing) => some ⟨inner, routing⟩
    | .error _ => none

/-- Opens the layers of hops in turn, and gives what each found and what is left after the last: the
public key and the ciphertext of the destination's layer. -/
def peelHops (opener : Opener) :
    (secrets : List Bytes) → (ephemeral ciphertext : Bytes) → Option (List Peeled × Bytes × Bytes)
  | [], ephemeral, ciphertext => some ([], ephemeral, ciphertext)
  | secret :: rest, ephemeral, ciphertext => do
    let peeled ← peelHop opener secret ephemeral ciphertext
    let ephemeral ← peeled.ephemeral?
    let (more, left) ← peelHops opener rest ephemeral peeled.inner
    some (peeled :: more, left)

end OnionSwarm.Onion

/-
Building an onion.

The payload is encrypted to the destination first.  Then, from the last hop back to the guard, the
layer so far and the instructions for going on are framed and encrypted to the hop.  What a hop
opens is thus made from the hops after it alone.
-/
import OnionSwarm.Crypto.LayerCipher
import OnionSwarm.Onion.Destination
import OnionSwarm.Onion.Framing
import OnionSwarm.Onion.Path

namespace OnionSwarm

/-- Why an onion cannot be built. -/
inductive BuildFailure where
  | crypto (cause : CryptoFailure)
  | key (cause : DirectoryFailure)
  | framing (cause : Framing.FramingError)
  | destinationInPath (n : Node)
  deriving DecidableEq, Repr

/-- The wording of a failure. -/
def BuildFailure.message : BuildFailure → String
  | .crypto cause => cause.message
  | .key cause => cause.message
  | .framing cause => cause.message
  | .destinationInPath n => "Destination " ++ n.url ++ " is also a hop of the path"

/-- A request that is ready for the guard. -/
structure Onion where
  guardNode : Node
  /-- The guard's layer. -/
  ciphertext : Bytes
  /-- The public key of the guard's layer. -/
  ephemeral : Bytes
  /-- The key that the destination seals its reply with. -/
  replyKey : Bytes
  deriving DecidableEq, Repr

namespace Onion

/-- The key of a node or destination, as building needs it. -/
def recipient (key : Except DirectoryFailure Bytes) : Except BuildFailure Bytes :=
  match key with
  | .ok bytes => .ok bytes
  | .error cause => .error (.key cause)

/-- Encrypts a layer to a key that may be no key. -/
def layer (cipher : LayerCipher) (turn : Nat) (text : Bytes)
    (key : Except DirectoryFailure Bytes) : Except BuildFailure Layer :=
  match recipient key with
  | .error e => .error e
  | .ok bytes =>
    match cipher.encrypt turn text bytes with
    | .ok layer => .ok layer
    | .error cause => .error (.crypto cause)

/-- What a hop opens: the inner layer, and the routing instructions with the key of that layer. -/
def hopText (inner : Layer) (routing : Json) : Except BuildFailure Bytes :=
  let routing := routing.insert "ephemeral_key" (.text (Text.Hex.encode inner.ephemeral))
  match Framing.encodePayload inner.ciphertext routing with
  | .ok text => .ok text
  | .error cause => .error (.framing cause)

/-- Wraps a layer for each of the hops, the one next to the destination first. -/
def wrap (cipher : LayerCipher) : (turn : Nat) → (backwards : List Node) → Layer → Json →
    Except BuildFailure Layer
  | _, [], inner, _ => .ok inner
  | turn, hop :: rest, inner, routing =>
    match hopText inner routing with
    | .error e => .error e
    | .ok text =>
      match layer cipher turn text hop.layerKey with
      | .error e => .error e
      | .ok outer => wrap cipher (turn + 1) rest outer (Destination.node hop).routing

/-- Builds the onion of a payload, its encryptions numbered from `turn`. -/
def build (cipher : LayerCipher) (turn : Nat) (path : Path) (destination : Destination)
    (payload : Bytes) : Except BuildFailure Onion :=
  match destination.node?.filter path.contains with
  | some n => .error (.destinationInPath n)
  | none =>
    match layer cipher turn payload destination.layerKey with
    | .error e => .error e
    | .ok innermost =>
      match wrap cipher (turn + 1) path.hops.reverse innermost destination.routing with
      | .error e => .error e
      | .ok outermost =>
        .ok ⟨path.guardNode, outermost.ciphertext, outermost.ephemeral, innermost.key⟩

end Onion
end OnionSwarm

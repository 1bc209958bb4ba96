/-
Signed calls that keep or delete the messages of an account, and calls that hold several others.
-/
import OnionSwarm.Api.Call
import OnionSwarm.Crypto.Identity

namespace OnionSwarm.Storage

/-- How long a message is kept if nothing else is said: fourteen days, in milliseconds. -/
def defaultLifetime : Nat := 14 * 24 * 60 * 60 * 1000

/-- A message to be kept. -/
structure Message where
  /-- Messages of different kinds are kept apart. -/
  nspace : Int
  data : Bytes
  /-- How long it is kept, in milliseconds. -/
  lifetime : Nat
  deriving DecidableEq, Repr

/-- What is signed to keep a message: the word, the namespace unless it is zero, and the time. -/
def storePayload (nspace : Int) (time : Nat) : Bytes :=
  Bytes.ofString "store" ++
    (if nspace = 0 then [] else Bytes.ofString (toString nspace)) ++
    Bytes.ofString (toString time)

/-- What is signed to delete messages: the word and their hashes. -/
def deletePayload (hashes : List String) : Bytes :=
  Bytes.ofString "delete" ++ hashes.flatMap Bytes.ofString

/-- The call that keeps a message; the time is that of the network, in milliseconds. -/
def store (who : Identity) (m : Message) (time : Nat) : NodeCall :=
  ⟨"store", .ofMembers
    [("pubkey", .text who.account),
     ("pubkey_ed25519", .text who.publicKey),
     ("namespace", .number (.int m.nspace)),
     ("data", .text (Text.Base64.encode m.data)),
     ("ttl", .nat m.lifetime),
     ("timestamp", .nat time),
     ("sig_timestamp", .nat time),
     ("signature", .text (who.sign (storePayload m.nspace time)))]⟩

/-- The call that deletes messages. -/
def delete (who : Identity) (hashes : List String) : NodeCall :=
  ⟨"delete", .ofMembers
    [("pubkey", .text who.account),
     ("pubkey_ed25519", .text who.publicKey),
     ("messages", .array (hashes.map .text)),
     ("signature", .text (who.sign (deletePayload hashes)))]⟩

/-- The parameters that hold other calls. -/
def holding (calls : List NodeCall) : Json :=
  .ofMembers [("requests", .array (calls.map NodeCall.toJson))]

/-- A call that holds others; the node makes all of them. -/
def batch (calls : List NodeCall) : NodeCall := ⟨"batch", holding calls⟩

/-- A call that holds others; the node stops at the first that fails. -/
def sequence (calls : List NodeCall) : NodeCall := ⟨"sequence", holding calls⟩

end OnionSwarm.Storage

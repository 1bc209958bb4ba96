/-
One exchange with a destination: the onion goes to the guard in one HTTP request, and the reply
comes back sealed with the key of the innermost layer.
-/
import OnionSwarm.Onion.Build
import OnionSwarm.Onion.GuardReply

namespace OnionSwarm

/-- The answer to an HTTP request. -/
structure HttpReply where
  status : Nat
  body : Bytes
  deriving DecidableEq, Repr

/-- Why an HTTP request got no answer. -/
structure HttpFailure where
  reason : String
  deriving DecidableEq, Repr

/-- The wording of a failure. -/
def HttpFailure.message (f : HttpFailure) : String := "HTTP request failed: " ++ f.reason

/-- Is it a status of success? -/
def isSuccess (code : Nat) : Bool := 200 ≤ code && code < 300

/-- The successful reply of a destination. -/
structure OnionReply where
  code : Nat
  /-- The information section, the code included. -/
  info : Json
  body : Option Bytes
  deriving Repr

/-- The body as JSON; null if there is none. -/
def OnionReply.json (r : OnionReply) : Except Json.ReadError Json :=
  match r.body with
  | some body => Json.parse body
  | none => .ok .null

namespace Exchange

/-- With these codes the destination complains of the time of the request. -/
def skewCodes : List Nat := [406, 425]

/-- The code of a reply: a natural number of 16 bits. -/
def code? (info : Json) : Option Nat := do
  let code ← (info.get? "code").bind Json.asNat?
  if code ≤ Text.Decimal.last16 then some code else none

/-- Is the body of a refusal worth keeping?  That of a node always is, that of a server if it found
the request bad. -/
def keepsBody (destination : Destination) (code : Nat) : Bool :=
  destination.node?.isSome || code == 400

/-- What a decoded reply says. -/
def judge (destination : Destination) (info : Json) (body : Option Bytes) :
    Except OnionFailure OnionReply :=
  match code? info with
  | none => .error (.badReply "response info has no status code")
  | some code =>
    if code ∈ skewCodes then .error (.clockSkew (.ofCode code))
    else if isSuccess code then .ok ⟨code, info, body⟩
    else
      .error (.destinationRefused ⟨code, (info.get? "message").bind Json.asText?,
        if keepsBody destination code then body else none⟩)

/-- Opens and reads a sealed reply. -/
def readReply (cipher : LayerCipher) (replyKey : Bytes) (destination : Destination)
    (sealedReply : Bytes) : Except OnionFailure OnionReply :=
  match cipher.decrypt sealedReply replyKey with
  | .error e => .error (.badReply e.message)
  | .ok bytes =>
    match Framing.decodeMessage bytes with
    | .error e => .error (.badReply e.message)
    | .ok (info, body) => judge destination info body

/-- What the guard's answer means. -/
def readAnswer (cipher : LayerCipher) (onion : Onion) (destination : Destination) :
    Except HttpFailure HttpReply → Except OnionFailure OnionReply
  | .error e => .error (.guardUnreachable onion.guardNode e.reason)
  | .ok reply =>
    if isSuccess reply.status then readReply cipher onion.replyKey destination reply.body
    else .error (GuardReply.classify onion.guardNode destination reply.status reply.body)

/-- Where a guard takes onion requests. -/
def guardUrl (n : Node) : String := n.url ++ "/onion_req/v2"

/-- The body of the request to the guard. -/
def requestBody (onion : Onion) : Except OnionFailure Bytes :=
  let params := Json.ofMembers [("ephemeral_key", .text (Text.Hex.encode onion.ephemeral))]
  match Framing.encodePayload onion.ciphertext params with
  | .ok body => .ok body
  | .error e => .error (.other e.message)

/-- Sends a payload along a path and reads the reply. -/
def send {σ : Type} (cipher : LayerCipher)
    (post : String → Bytes → StateM σ (Except HttpFailure HttpReply)) (turn : Nat) (path : Path)
    (destination : Destination) (payload : Bytes) : StateM σ (Except OnionFailure OnionReply) :=
  match Onion.build cipher turn path destination payload with
  | .error e => return .error (.other ("failed to build onion: " ++ e.message))
  | .ok onion =>
    match requestBody onion with
    | .error e => return .error e
    | .ok body => do
      let answer ← post (guardUrl onion.guardNode) body
      return readAnswer cipher onion destination answer

end Exchange
end OnionSwarm

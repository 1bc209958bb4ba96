/-
A whole exchange: out through the relays to the destination, and back.

The relays are taken to be honest, and that is all that is known of them (`Honest`).  A request that
every hop can peel, and whose directions lead along the path, arrives (`delivered`); for one that
arrives the guard answers with success, and its answer is what the destination framed and sealed
with the key it derived.  Nothing is promised for any other request, so the first half of the work
is to show that the request which is sent does arrive: the hops recurse along the path just as the
layers do (`along_layerFor`).

The second half is the way back.  What is sealed is opened, what is framed is taken apart, and there
is left the table of the codes.  It is stated one kind of code at a time (`ReadAs`), since the kinds
exclude each other and the order in which the program tries them is then of no matter.
-/
import Mathlib.Tactic.Common
import OnionSwarm.Onion.Exchange
import OnionSwarm.Proofs.Onion.RoundTrip
import OnionSwarm.Proofs.Onion.Sealings

namespace OnionSwarm.Exchange

open Onion

variable {σ : Type} {cipher : LayerCipher} {turn : Nat} {path : Path} {destination : Destination}
  {payload : Bytes}

/-! ### Honest relays -/

/-- The instructions that a hop finds, without the key of the next layer, are the target's. -/
theorem directions_found (target : Destination) (inner : Layer) :
    (found target inner).directions = target.routing := by
  cases target with
  | node n => rfl
  | server s =>
    simp only [found, told, Peeled.directions, Destination.routing, Json.ofMembers,
      Json.insertNewMember, List.foldr, List.filter, bne, String.reduceBEq, String.reduceLT,
      String.reduceEq, Bool.not_true, Bool.not_false, if_true, if_false]

/-- Relays and the destinations behind them. -/
structure Relaying where
  opener : Opener
  /-- What the hops and the destination open their layers with. -/
  secret : Destination → Bytes
  /-- How a destination seals its reply with a key; it may take a new nonce each time. -/
  sealWith : (nonce : Nat) → (key text : Bytes) → Bytes
  /-- The information and the body that a destination replies to a payload. -/
  reply : (payload : Bytes) → Json × Option Bytes

namespace Relaying

/-- Hands a layer on along the hops, each of which must be directed to the next stop, and opens it
at the destination: what arrives there, and the key that the destination derives. -/
def along (r : Relaying) (destination : Destination) :
    (hops : List Node) → (ephemeral ciphertext : Bytes) → Option (Bytes × Bytes)
  | [], ephemeral, ciphertext => (r.opener (r.secret destination) ephemeral ciphertext).toOption
  | hop :: rest, ephemeral, ciphertext => do
    let peeled ← peelHop r.opener (r.secret (.node hop)) ephemeral ciphertext
    if peeled.directions.toBytes = (nextStop destination rest).routing.toBytes then
      let ephemeral ← peeled.ephemeral?
      r.along destination rest ephemeral peeled.inner
    else none

/-- What the destination gets from a request to the guard, and the key that it derives. -/
def delivered (r : Relaying) (path : Path) (destination : Destination) (request : Bytes) :
    Option (Bytes × Bytes) := do
  let (ciphertext, params) ← (Framing.decodePayload request).toOption
  let ephemeral ← (Peeled.mk ciphertext params).ephemeral?
  r.along destination path.hops ephemeral ciphertext

/-- The answer to a payload, sealed with a key. -/
def sealedReply (r : Relaying) (nonce : Nat) (payload key : Bytes) : Bytes :=
  r.sealWith nonce key (Framing.encodeMessage (r.reply payload).1 (r.reply payload).2)

/-- The relays along a path are honest, and so is the destination; the cipher opens for them what is
made for their keys, and for the client what is sealed with the key that it keeps. -/
structure Honest (r : Relaying) (cipher : LayerCipher)
    (post : String → Bytes → StateM σ (Except HttpFailure HttpReply)) (path : Path)
    (destination : Destination) (replyKey : Bytes) : Prop where
  hops : ∀ n ∈ path.hops, Unseals cipher r.opener n.layerKey (r.secret (.node n))
  ending : Unseals cipher r.opener destination.layerKey (r.secret destination)
  undone : ∀ nonce text, cipher.decrypt (r.sealWith nonce replyKey text) replyKey = .ok text
  /-- To a request that is delivered the guard answers with the sealed reply. -/
  answers : ∀ request payload key, r.delivered path destination request = some (payload, key) →
    ∀ w, ∃ status nonce, isSuccess status = true ∧
      (post (guardUrl path.guardNode) request w).1
        = .ok ⟨status, r.sealedReply nonce payload key⟩

end Relaying

/-! ### The way out -/

/-- The layer that is made for some hops comes to the destination through them. -/
theorem Relaying.along_layerFor (r : Relaying) {hops : List Node} {outer innermost : Layer}
    (unseals : ∀ n ∈ hops, Unseals cipher r.opener n.layerKey (r.secret (.node n)))
    (ending : Unseals cipher r.opener destination.layerKey (r.secret destination))
    (port : PortFits destination)
    (last : layerFor cipher turn destination payload [] = .ok innermost)
    (made : layerFor cipher turn destination payload hops = .ok outer) :
    r.along destination hops outer.ephemeral outer.ciphertext
      = some (payload, innermost.key) := by
  induction hops generalizing outer with
  | nil =>
    obtain rfl := Except.ok.inj (last.symm.trans made)
    rw [along, ending.layer last]
    rfl
  | cons hop rest ih =>
    obtain ⟨inner, inside, peeled⟩ :=
      peelHop_of_layerFor (unseals hop List.mem_cons_self) port made
    have onward := ih (fun n mem => unseals n (List.mem_cons_of_mem hop mem)) inside
    rw [along, peeled]
    simp only [Option.bind_eq_bind, Option.bind_some, directions_found, if_true, ephemeral?_found]
    exact onward

/-- The public key of the guard's layer is read back from the request. -/
theorem requestBody_ok {onion : Onion} (short : onion.ciphertext.length < Framing.payloadLimit) :
    ∃ request params, requestBody onion = .ok request ∧
      Framing.decodePayload request = .ok (onion.ciphertext, params) ∧
      (Peeled.mk onion.ciphertext params).ephemeral? = some onion.ephemeral := by
  let params := Json.ofMembers [("ephemeral_key", .text (Text.Hex.encode onion.ephemeral))]
  have framed := Framing.encodePayload_ok params short
  have kept : Json.Kept Json.deepest params := ⟨List.isChain_singleton _, trivial, trivial⟩
  refine ⟨_, params, ?_, Framing.decodePayload_encodePayload kept framed, ?_⟩
  · rw [requestBody, framed]
  · have key : (params.get? "ephemeral_key").bind Json.asText?
        = some (Text.Hex.encode onion.ephemeral) := rfl
    simp only [Peeled.ephemeral?, key, Option.bind_eq_bind, Option.bind_some,
      Text.Hex.decode_encode]

/-- **The request of an onion arrives at its destination.**  It finds there the payload, and the key
that is derived there is the one kept for the reply. -/
theorem Relaying.delivered_of_build (r : Relaying) {onion : Onion}
    (built : build cipher turn path destination payload = .ok onion)
    (unseals : ∀ n ∈ path.hops, Unseals cipher r.opener n.layerKey (r.secret (.node n)))
    (ending : Unseals cipher r.opener destination.layerKey (r.secret destination))
    (port : PortFits destination) (short : onion.ciphertext.length < Framing.payloadLimit) :
    ∃ request, requestBody onion = .ok request ∧
      r.delivered path destination request = some (payload, onion.replyKey) := by
  obtain ⟨request, params, body, taken, key⟩ := requestBody_ok short
  obtain ⟨innermost, outermost, last, made, rfl⟩ := layerFor_of_build built
  refine ⟨request, body, ?_⟩
  rw [delivered, taken]
  simp only [Except.toOption, Option.bind_eq_bind, Option.bind_some, key]
  exact r.along_layerFor unseals ending port last made

/-! ### What a reply says -/

/-- The information has a code of 16 bits. -/
def Coded (info : Json) (code : Nat) : Prop :=
  info.get? "code" = some (.nat code) ∧ code ≤ 65535

theorem code?_eq_some_iff {info : Json} {code : Nat} :
    code? info = some code ↔ Coded info code := by
  unfold code? Coded
  constructor
  · intro read
    obtain ⟨n, within, fits⟩ := Option.bind_eq_some_iff.1 read
    obtain ⟨v, member, natural⟩ := Option.bind_eq_some_iff.1 within
    obtain rfl := Json.asNat?_eq_some_iff.1 natural
    split at fits
    · rename_i small
      obtain rfl := Option.some.inj fits
      exact ⟨member, small⟩
    · cases fits
  · rintro ⟨member, fits⟩
    have small : code ≤ Text.Decimal.last16 := fits
    have natural : (Json.nat code).asNat? = some code := Json.asNat?_eq_some_iff.2 rfl
    simp only [member, Option.bind_eq_bind, Option.bind_some, natural, if_pos small]

/-- What is made of a reply with this information and body, by the code of the information. -/
structure ReadAs (destination : Destination) (info : Json) (body : Option Bytes)
    (result : Except OnionFailure OnionReply) : Prop where
  uncoded : (∃ reason, result = .error (.badReply reason)) ↔ ¬ ∃ code, Coded info code
  skew : ∀ code, Coded info code → code = 406 ∨ code = 425 →
    result = .error (.clockSkew ⟨code, none, none⟩)
  success : ∀ code, Coded info code → 200 ≤ code → code ≤ 299 →
    result = .ok ⟨code, info, body.filter fun content => !content.isEmpty⟩
  refused : ∀ code, Coded info code → code ≠ 406 → code ≠ 425 → ¬ (200 ≤ code ∧ code ≤ 299) →
    ∃ message kept, result = .error (.destinationRefused ⟨code, message, kept⟩) ∧
      (∀ text, message = some text ↔ info.get? "message" = some (.text text)) ∧
      ∀ content, kept = some content ↔
        body = some content ∧ content ≠ [] ∧ ((∃ n, destination = .node n) ∨ code = 400)

theorem keepsBody_iff {code : Nat} :
    keepsBody destination code = true ↔ (∃ n, destination = .node n) ∨ code = 400 := by
  cases destination with
  | node n => simp [keepsBody, Destination.node?]
  | server s => simp [keepsBody, Destination.node?]

/-- **The table of the codes.** -/
theorem readAs_judge (destination : Destination) (info : Json) (body : Option Bytes) :
    ReadAs destination info body
      (judge destination info (body.filter fun content => !content.isEmpty)) := by
  have skewed : ∀ code, code ∈ skewCodes ↔ code = 406 ∨ code = 425 := by
    intro code
    simp [skewCodes]
  have successful : ∀ code, isSuccess code = true ↔ 200 ≤ code ∧ code ≤ 299 := by
    intro code
    simp only [isSuccess, Bool.and_eq_true, decide_eq_true_eq]
    omega
  -- one case for each line of the table
  constructor
  case uncoded =>
    constructor
    · rintro ⟨reason, bad⟩ ⟨code, coded⟩
      rw [judge, code?_eq_some_iff.2 coded] at bad
      simp only at bad
      split at bad
      · cases bad
      · split at bad <;> cases bad
    · intro uncoded
      cases read : code? info with
      | some code => exact (uncoded ⟨code, code?_eq_some_iff.1 read⟩).elim
      | none => exact ⟨_, by rw [judge, read]⟩
  case skew =>
    intro code coded isSkew
    rw [judge, code?_eq_some_iff.2 coded]
    simp only [if_pos ((skewed code).2 isSkew), Status.ofCode]
  case success =>
    intro code coded above below
    have noSkew : code ∉ skewCodes := by
      rw [skewed]
      omega
    rw [judge, code?_eq_some_iff.2 coded]
    simp only [if_neg noSkew, if_pos ((successful code).2 ⟨above, below⟩)]
  case refused =>
    intro code coded not406 not425 noSuccess
    have noSkew : code ∉ skewCodes := by
      rw [skewed]
      omega
    have failed : ¬ isSuccess code = true := by
      rw [successful]
      exact noSuccess
    refine ⟨(info.get? "message").bind Json.asText?,
      if keepsBody destination code then body.filter fun content => !content.isEmpty else none,
      ?_, ?_, ?_⟩
    · rw [judge, code?_eq_some_iff.2 coded]
      simp only [if_neg noSkew, if_neg failed]
    · intro text
      simp only [Option.bind_eq_some_iff, Json.asText?_eq_some_iff, exists_eq_right]
    · intro content
      by_cases keeps : keepsBody destination code = true
      · rw [if_pos keeps, Option.filter_eq_some_iff]
        simp [keepsBody_iff.1 keeps]
      · rw [if_neg keeps]
        simp [← keepsBody_iff, keeps]

/-! ### The way back -/

/-- The reply of the destination is read as what it says. -/
theorem readAs_readAnswer {onion : Onion} {info : Json} {body : Option Bytes} {status : Nat}
    {sealedReply : Bytes} (success : isSuccess status = true)
    (opened : cipher.decrypt sealedReply onion.replyKey = .ok (Framing.encodeMessage info body))
    (back : Json.parse info.toBytes = .ok info) (short : Framing.Short info body) :
    ReadAs destination info body
      (readAnswer cipher onion destination (.ok ⟨status, sealedReply⟩)) := by
  have read : readAnswer cipher onion destination (.ok ⟨status, sealedReply⟩)
      = judge destination info (body.filter fun content => !content.isEmpty) := by
    rw [readAnswer, if_pos success, readReply, opened]
    simp only [Framing.decodeMessage_encodeMessage back short]
  rw [read]
  exact readAs_judge destination info body

/-! ### The exchange -/

/-- A post that keeps a list of the requests that were made. -/
def logged (post : String → Bytes → StateM σ (Except HttpFailure HttpReply)) :
    String → Bytes → StateM (σ × List (String × Bytes)) (Except HttpFailure HttpReply) :=
  fun url body s => ((post url body s.1).1, (post url body s.1).2, s.2 ++ [(url, body)])

/-- The guard is asked once, for what was built. -/
theorem send_logged (post : String → Bytes → StateM σ (Except HttpFailure HttpReply))
    {onion : Onion} {request : Bytes}
    (built : build cipher turn path destination payload = .ok onion)
    (body : requestBody onion = .ok request) (w : σ) :
    (send cipher (logged post) turn path destination payload).run (w, [])
      = (readAnswer cipher onion destination (post (guardUrl onion.guardNode) request w).1,
          (post (guardUrl onion.guardNode) request w).2,
          [(guardUrl onion.guardNode, request)]) := by
  simp only [send, built, body]
  rfl

/--
**An exchange along honest relays.**  Where an onion cannot be built no request is made at all.
Where it is built, the guard is asked once, the payload comes to the destination, and the reply that
the destination framed and sealed with its key is read as what its information says: with no code of
16 bits it is no reply, two codes are complaints of the time, those from 200 to 299 give the reply,
and every other one is a refusal, whose body is kept if it comes from a node or says that the
request was bad.
-/
theorem send_readAs {post : String → Bytes → StateM σ (Except HttpFailure HttpReply)} (w : σ) :
    (∀ e, build cipher turn path destination payload = .error e →
      (send cipher (logged post) turn path destination payload).run (w, [])
        = (.error (.other ("failed to build onion: " ++ e.message)), w, [])) ∧
    ∀ (onion : Onion) (r : Relaying) (info : Json) (body : Option Bytes),
      build cipher turn path destination payload = .ok onion →
      onion.ciphertext.length < 2 ^ 32 → PortFits destination →
      r.Honest cipher post path destination onion.replyKey → r.reply payload = (info, body) →
      Json.parse info.toBytes = .ok info → info.toBytes.length < 10 ^ 10 →
      (∀ content, body = some content → content.length < 10 ^ 10) →
      ∃ result after request,
        (send cipher (logged post) turn path destination payload).run (w, [])
          = (result, after, [(path.guardNode.url ++ "/onion_req/v2", request)]) ∧
        r.delivered path destination request = some (payload, onion.replyKey) ∧
        ReadAs destination info body result := by
  constructor
  · intro e failed
    simp only [send, failed]
    rfl
  · intro onion r info body built fits port honest reply back shortInfo shortBody
    obtain ⟨request, framed, delivered⟩ :=
      r.delivered_of_build built honest.hops honest.ending port fits
    obtain ⟨status, nonce, success, answer⟩ := honest.answers request payload _ delivered w
    have atGuard : onion.guardNode = path.guardNode := by
      obtain ⟨innermost, outermost, -, -, rfl⟩ := layerFor_of_build built
      rfl
    have opened : cipher.decrypt (r.sealedReply nonce payload onion.replyKey) onion.replyKey
        = .ok (Framing.encodeMessage info body) := by
      rw [Relaying.sealedReply, reply]
      exact honest.undone nonce _
    have ran := send_logged post built framed w
    rw [atGuard, answer] at ran
    exact ⟨_, _, request, ran, delivered,
      readAs_readAnswer success opened back ⟨shortInfo, shortBody⟩⟩

/-- A reply that sends the request elsewhere. -/
def trialReply : Json := .object [("code", .nat 421), ("message", .text "moved")]

/-- Relays whose hops hold the secrets of the nodes for trials. -/
def trialRelaying : Relaying where
  opener := openTransparent
  secret
    | .node n => trialSecret n
    | .server _ => []
  sealWith _ key text := key.take LayerCipher.markLength ++ text
  reply _ := (trialReply, some [1, 2])

/-- A guard that answers for them. -/
def trialPost : String → Bytes → StateM Unit (Except HttpFailure HttpReply) := fun _ request =>
  match trialRelaying.delivered trialPath (.node (trialNode 3)) request with
  | some (payload, key) => return .ok ⟨200, trialRelaying.sealedReply 0 payload key⟩
  | none => return .error ⟨"nothing arrived"⟩

theorem honest_trialRelaying {replyKey : Bytes} (long : LayerCipher.markLength ≤ replyKey.length) :
    trialRelaying.Honest LayerCipher.transparent trialPost trialPath (.node (trialNode 3))
      replyKey where
  hops := by
    intro n mem
    rcases List.mem_cons.1 mem with rfl | mem
    · exact unseals_trialSecret (by decide)
    · rw [List.mem_singleton.1 mem]
      exact unseals_trialSecret (by decide)
  ending := unseals_trialSecret (by decide)
  undone _ text := unmark_mark long text
  answers := by
    intro request payload key delivered w
    refine ⟨200, 0, rfl, ?_⟩
    rw [trialPost, delivered]
    rfl

theorem send_readAs_trialReply :
    (∃ after request,
      (send LayerCipher.transparent (logged trialPost) 0 trialPath (.node (trialNode 3))
          [1, 2, 3]).run ((), [])
        = (.error (.destinationRefused ⟨421, some "moved", some [1, 2]⟩), after,
            [(trialPath.guardNode.url ++ "/onion_req/v2", request)])) ∧
    (send LayerCipher.transparent (logged trialPost) 0 trialPath (.node (trialNode 2))
        [1, 2, 3]).run ((), [])
      = (.error (.other ("failed to build onion: "
          ++ (BuildFailure.destinationInPath (trialNode 2)).message)), (), []) := by
  have kept : Json.Kept Json.deepest trialReply := by
    have ascending : ["code", "message"].IsChain (· < ·) := by decide
    have small : Number.Fits (.int 421) := ⟨by decide, by decide⟩
    exact ⟨ascending, small, trivial, trivial⟩
  have shortBody : ∀ content : Bytes, some [1, 2] = some content → content.length < 10 ^ 10 := by
    rintro content ⟨rfl⟩
    decide
  obtain ⟨onion, built, fits, long⟩ := exists_build_trialPath
  constructor
  · obtain ⟨result, after, request, ran, -, read⟩ :=
      (send_readAs ()).2 onion trialRelaying trialReply (some [1, 2]) built fits trivial
        (honest_trialRelaying long) rfl (Json.parse_toBytes kept) (by decide +kernel) shortBody
    obtain ⟨message, content, refused, worded, keeps⟩ :=
      read.refused 421 ⟨rfl, by decide⟩ (by decide) (by decide) (by decide)
    obtain rfl := (worded "moved").2 rfl
    obtain rfl := (keeps [1, 2]).2 ⟨rfl, by decide, .inl ⟨_, rfl⟩⟩
    exact ⟨after, request, by rw [ran, refused]⟩
  · exact (send_readAs ()).1 _ (build_destinationInPath_iff.2 ⟨rfl, by decide⟩)

end OnionSwarm.Exchange

/-
An onion is opened layer by layer, each by the hop it was made for.

Building runs from the destination back to the guard, and peeling runs the other way.  To bring the
two together, the layers are named after what they are for: `layerFor hops` is the layer that goes to
the first of `hops`, or to the destination if there is none.  It is made from the layer for the hops
after that one, so it recurses along the path in the order in which the hops peel, and building
arrives at it (`wrap_reverse`).

What is left is one induction along the path.  A hop opens its layer, by the law of the cipher; it
takes the framing apart, by the reading of JSON; and what it finds is the next layer together with
the public key that opens it.
-/
import Mathlib.Tactic.Common
import Mathlib.Data.List.Infix
import OnionSwarm.Onion.Build
import OnionSwarm.Onion.Peel
import OnionSwarm.Proofs.Onion.Framing
import OnionSwarm.Proofs.Text.Hex

namespace OnionSwarm.Onion

variable {cipher : LayerCipher} {opener : Opener} {turn : Nat} {destination : Destination}
  {payload : Bytes}

/-! ### What a hop is told -/

/-- The instructions for going on to a target, with the public key of the layer that goes there. -/
def told (target : Destination) (ephemeral : Bytes) : Json :=
  match target with
  | .node n =>
    .object [("destination", .text n.key), ("ephemeral_key", .text (Text.Hex.encode ephemeral))]
  | .server s =>
    .object [("ephemeral_key", .text (Text.Hex.encode ephemeral)), ("host", .text s.host),
      ("method", .text "POST"), ("port", .nat s.port), ("protocol", .text s.scheme),
      ("target", .text s.target)]

/-- They are the routing of the target with one member more. -/
theorem told_eq (target : Destination) (ephemeral : Bytes) :
    told target ephemeral
      = target.routing.insert "ephemeral_key" (.text (Text.Hex.encode ephemeral)) := by
  cases target with
  | node n =>
    simp only [told, Destination.routing, Json.ofMembers, Json.insertNewMember, Json.insert,
      Json.insertMember, List.foldr, String.reduceLT, String.reduceEq, if_false]
  | server s =>
    simp only [told, Destination.routing, Json.ofMembers, Json.insertNewMember, Json.insert,
      Json.insertMember, List.foldr, String.reduceLT, String.reduceEq, if_true, if_false]

/-- A port is a 16-bit number; a node has a port of its own, which no hop is told. -/
def PortFits : Destination → Prop
  | .node _ => True
  | .server s => s.port ≤ Text.Decimal.last16

theorem kept_told {target : Destination} (port : PortFits target) (ephemeral : Bytes) :
    Json.Kept Json.deepest (told target ephemeral) := by
  cases target with
  | node n =>
    have ascending : ["destination", "ephemeral_key"].IsChain (· < ·) := by decide
    exact ⟨ascending, trivial, trivial, trivial⟩
  | server s =>
    have fits : Number.Fits (.int s.port) := by
      have small : s.port ≤ 0xFFFF := port
      refine ⟨?_, ?_⟩ <;> omega
    have ascending : ["ephemeral_key", "host", "method", "port", "protocol", "target"].IsChain
        (· < ·) := by decide
    exact ⟨ascending, trivial, trivial, trivial, fits, trivial, trivial, trivial⟩

/-- What a hop finds in its layer: the next one, and where that has to go. -/
def found (target : Destination) (inner : Layer) : Peeled :=
  ⟨inner.ciphertext, told target inner.ephemeral⟩

theorem ephemeral?_found (target : Destination) (inner : Layer) :
    (found target inner).ephemeral? = some inner.ephemeral := by
  have text : ((found target inner).routing.get? "ephemeral_key").bind Json.asText?
      = some (Text.Hex.encode inner.ephemeral) := by
    cases target <;> rfl
  simp only [Peeled.ephemeral?, text, Option.bind_eq_bind, Option.bind_some,
    Text.Hex.decode_encode]

theorem hopText_eq (inner : Layer) (target : Destination) :
    hopText inner target.routing
      = match Framing.encodePayload inner.ciphertext (told target inner.ephemeral) with
        | .ok text => .ok text
        | .error cause => .error (.framing cause) := by
  rw [told_eq]
  rfl

/-! ### The layers of an onion -/

/-- Where the holder of a layer sends on to, given the hops after it. -/
def nextStop (destination : Destination) : List Node → Destination
  | [] => destination
  | hop :: _ => .node hop

/-- The layer that goes to the first of these hops, or to the destination if there is none.  The
encryptions are numbered in the order in which they are made, the innermost first. -/
def layerFor (cipher : LayerCipher) (turn : Nat) (destination : Destination) (payload : Bytes) :
    List Node → Except BuildFailure Layer
  | [] => layer cipher turn payload destination.layerKey
  | hop :: rest =>
    match layerFor cipher turn destination payload rest with
    | .error e => .error e
    | .ok inner =>
      match hopText inner (nextStop destination rest).routing with
      | .error e => .error e
      | .ok text => layer cipher (turn + 1 + rest.length) text hop.layerKey

/-- The routing that is left when hops have been wrapped: that of the last of them. -/
def routingAfter (routing : Json) (backwards : List Node) : Json :=
  match backwards.getLast? with
  | none => routing
  | some hop => (Destination.node hop).routing

theorem routingAfter_cons (routing : Json) (first : Node) (rest : List Node) :
    routingAfter routing (first :: rest) = routingAfter (Destination.node first).routing rest := by
  cases rest with
  | nil => rfl
  | cons second more => simp only [routingAfter, List.getLast?_cons, Option.getD_some]

theorem wrap_append (turn : Nat) (backwards : List Node) (hop : Node) (inner : Layer)
    (routing : Json) :
    wrap cipher turn (backwards ++ [hop]) inner routing
      = match wrap cipher turn backwards inner routing with
        | .error e => .error e
        | .ok outer =>
          match hopText outer (routingAfter routing backwards) with
          | .error e => .error e
          | .ok text => layer cipher (turn + backwards.length) text hop.layerKey := by
  -- every layer takes a turn, and says where the one before it is to go
  induction backwards generalizing turn inner routing with
  | nil =>
    simp only [List.nil_append, wrap, routingAfter, List.getLast?_nil, List.length_nil,
      Nat.add_zero]
    cases hopText inner routing with
    | error e => rfl
    | ok text =>
      simp only
      cases layer cipher turn text hop.layerKey <;> rfl
  | cons first rest ih =>
    simp only [List.cons_append, wrap]
    cases hopText inner routing with
    | error e => rfl
    | ok text =>
      simp only
      cases layer cipher turn text first.layerKey with
      | error e => rfl
      | ok outer =>
        have count : turn + 1 + rest.length = turn + (first :: rest).length := by
          rw [List.length_cons]
          omega
        simp only
        rw [ih, routingAfter_cons, count]

/-- **Building wraps a layer for every hop, and arrives at the layer for the whole path.** -/
theorem wrap_reverse {innermost : Layer}
    (ending : layer cipher turn payload destination.layerKey = .ok innermost) (hops : List Node) :
    wrap cipher (turn + 1) hops.reverse innermost destination.routing
      = layerFor cipher turn destination payload hops := by
  induction hops with
  | nil => exact ending.symm
  | cons hop rest ih =>
    have left : routingAfter destination.routing rest.reverse
        = (nextStop destination rest).routing := by
      rw [routingAfter, List.getLast?_reverse]
      cases rest <;> rfl
    rw [List.reverse_cons, wrap_append, ih, left, List.length_reverse, layerFor]

/-! ### Opening them -/

/-- The law of a cipher for one recipient: its key is good, every layer encrypted to that key is
made, and the secret opens the layer to what it was made from, together with its key. -/
def Opens (cipher : LayerCipher) (opener : Opener) (key : Except DirectoryFailure Bytes)
    (secret : Bytes) : Prop :=
  ∃ bytes, key = .ok bytes ∧ ∀ turn text, ∃ l, cipher.encrypt turn text bytes = .ok l ∧
    opener secret l.ephemeral l.ciphertext = .ok (text, l.key)

theorem layer_eq_ok_iff {text : Bytes} {key : Except DirectoryFailure Bytes} {l : Layer} :
    layer cipher turn text key = .ok l ↔
      ∃ bytes, key = .ok bytes ∧ cipher.encrypt turn text bytes = .ok l := by
  cases key with
  | error e => simp [layer, recipient]
  | ok bytes =>
    simp only [layer, recipient, Except.ok.injEq, exists_eq_left']
    cases cipher.encrypt turn text bytes <;> simp

theorem layer_of_opens {key : Except DirectoryFailure Bytes} {secret : Bytes}
    (opens : Opens cipher opener key secret) (turn : Nat) (text : Bytes) :
    ∃ l, layer cipher turn text key = .ok l ∧
      opener secret l.ephemeral l.ciphertext = .ok (text, l.key) := by
  obtain ⟨bytes, rfl, works⟩ := opens
  obtain ⟨l, made, opened⟩ := works turn text
  exact ⟨l, layer_eq_ok_iff.2 ⟨bytes, rfl, made⟩, opened⟩

/-- Every layer that goes on to a hop or to the destination can be framed: its length fits four
bytes. -/
def LayersFit (cipher : LayerCipher) (turn : Nat) (destination : Destination) (payload : Bytes)
    (hops : List Node) : Prop :=
  ∀ rest, rest <:+ hops → ∀ l, layerFor cipher turn destination payload rest = .ok l →
    l.ciphertext.length < Framing.payloadLimit

instance (hops : List Node) : Decidable (LayersFit cipher turn destination payload hops) :=
  decidable_of_iff
    (∀ rest ∈ hops.tails, ∀ l ∈ (layerFor cipher turn destination payload rest).toOption,
      l.ciphertext.length < Framing.payloadLimit) (by
    have made : ∀ rest l, l ∈ (layerFor cipher turn destination payload rest).toOption ↔
        layerFor cipher turn destination payload rest = .ok l := by
      intro rest l
      cases layerFor cipher turn destination payload rest <;> simp [Except.toOption]
    simp only [LayersFit, List.mem_tails, made])

/-- One hop: from the layer inside it the layer for the hop is made, and the hop finds the one
inside and the instructions for it. -/
theorem layerFor_cons {hop : Node} {rest : List Node} {secret : Bytes} {inner : Layer}
    (opens : Opens cipher opener hop.layerKey secret)
    (port : PortFits (nextStop destination rest))
    (made : layerFor cipher turn destination payload rest = .ok inner)
    (short : inner.ciphertext.length < Framing.payloadLimit) :
    ∃ outer, layerFor cipher turn destination payload (hop :: rest) = .ok outer ∧
      peelHop opener secret outer.ephemeral outer.ciphertext
        = some (found (nextStop destination rest) inner) := by
  have framed := Framing.encodePayload_ok (told (nextStop destination rest) inner.ephemeral) short
  have text := hopText_eq inner (nextStop destination rest)
  rw [framed] at text
  obtain ⟨outer, sealed, opened⟩ := layer_of_opens opens (turn + 1 + rest.length) _
  refine ⟨outer, ?_, ?_⟩
  · rw [layerFor, made]
    simp only [text]
    exact sealed
  · rw [peelHop, opened]
    simp only [Framing.decodePayload_encodePayload (kept_told port inner.ephemeral) framed]
    rfl

/-- The targets of the hops of a path: each one sends on to the next, the last to the
destination. -/
def targets (destination : Destination) : List Node → List Destination
  | [] => []
  | _ :: rest => nextStop destination rest :: targets destination rest

theorem targets_eq (destination : Destination) (hop : Node) (rest : List Node) :
    targets destination (hop :: rest) = rest.map .node ++ [destination] := by
  induction rest generalizing hop with
  | nil => rfl
  | cons next rest ih => rw [targets, ih, nextStop, List.map_cons, List.cons_append]

/-- The hops of a path peel the layer that is made for the path, down to the destination's. -/
theorem peelHops_layerFor {hops : List Node} {secret : Node → Bytes} {innermost : Layer}
    (opens : ∀ n ∈ hops, Opens cipher opener n.layerKey (secret n)) (port : PortFits destination)
    (ending : layerFor cipher turn destination payload [] = .ok innermost)
    (fit : LayersFit cipher turn destination payload hops) :
    ∃ outer inside, layerFor cipher turn destination payload hops = .ok outer ∧
      hops.tails.map (layerFor cipher turn destination payload) = (outer :: inside).map .ok ∧
      peelHops opener (hops.map secret) outer.ephemeral outer.ciphertext
        = some (List.zipWith found (targets destination hops) inside,
            innermost.ephemeral, innermost.ciphertext) := by
  induction hops with
  | nil =>
    refine ⟨innermost, [], ending, ?_, rfl⟩
    rw [List.tails, List.map_singleton, ending]
    rfl
  | cons hop rest ih =>
    have fit' : LayersFit cipher turn destination payload rest := by
      intro more within
      exact fit more (within.trans (List.suffix_cons hop rest))
    -- what the first hop finds inside is the layer for the hops behind it
    obtain ⟨inner, inside, made, layers, peeled⟩ :=
      ih (fun n mem => opens n (List.mem_cons_of_mem hop mem)) fit'
    have port' : PortFits (nextStop destination rest) := by
      cases rest with
      | nil => exact port
      | cons next rest => trivial
    obtain ⟨outer, outerMade, opened⟩ := layerFor_cons (opens hop (by simp)) port' made
      (fit rest (List.suffix_cons hop rest) inner made)
    refine ⟨outer, inner :: inside, outerMade, ?_, ?_⟩
    · rw [List.tails, List.map_cons, outerMade, layers]
      rfl
    · rw [List.map_cons, peelHops, opened]
      have inward : (found (nextStop destination rest) inner).inner = inner.ciphertext := rfl
      simp only [Option.bind_eq_bind, Option.bind_some, ephemeral?_found, inward, peeled]
      rfl

theorem getLast?_tails (hops : List Node) : hops.tails.getLast? = some [] := by
  induction hops with
  | nil => rfl
  | cons hop rest ih => rw [List.tails_cons, List.getLast?_cons, ih, Option.getD_some]

/-- The last layer inside a path is the destination's. -/
theorem getLast?_inside {innermost : Layer} {inside : List Layer}
    (ending : layerFor cipher turn destination payload [] = .ok innermost) (hops : List Node)
    (layers : hops.tails.map (layerFor cipher turn destination payload) = inside.map .ok) :
    inside.getLast? = some innermost := by
  have last := congrArg List.getLast? layers
  rw [List.getLast?_map, List.getLast?_map, getLast?_tails, Option.map_some, ending] at last
  cases found : inside.getLast? with
  | none => rw [found] at last; cases last
  | some l =>
    rw [found, Option.map_some] at last
    rw [Except.ok.inj (Option.some.inj last)]

theorem build_eq {path : Path} {innermost : Layer}
    (apart : ∀ n, destination = .node n → path.contains n = false)
    (ending : layerFor cipher turn destination payload [] = .ok innermost) :
    build cipher turn path destination payload
      = match layerFor cipher turn destination payload path.hops with
        | .error e => .error e
        | .ok outermost =>
          .ok ⟨path.guardNode, outermost.ciphertext, outermost.ephemeral, innermost.key⟩ := by
  have outside : destination.node?.filter path.contains = none := by
    cases destination with
    | node n => simp [Destination.node?, apart n rfl]
    | server s => rfl
  have ending' : layer cipher turn payload destination.layerKey = .ok innermost := ending
  unfold build
  cases whole : layerFor cipher turn destination payload path.hops with
  | error e => simp only [outside, ending', wrap_reverse ending', whole]
  | ok outermost => simp only [outside, ending', wrap_reverse ending', whole]

/--
**Honest peeling undoes the layers of an onion exactly.**  The onion is built and goes to the first
hop.  Every hop in turn opens its layer and finds the next one with its instructions: a hop before
the last one is told the key of the next hop and of the next layer, the last one the routing of the
destination and the key of the innermost layer.  What is left after the last hop opens at the
destination to the payload, and the key that the destination derives is the one kept for its reply.
-/
theorem peelHops_build {path : Path} {secret : Node → Bytes} {endSecret : Bytes}
    (opens : ∀ n ∈ path.hops, Opens cipher opener n.layerKey (secret n))
    (ending : Opens cipher opener destination.layerKey endSecret)
    (apart : ∀ n, destination = .node n → path.contains n = false)
    (port : PortFits destination)
    (fit : LayersFit cipher turn destination payload path.hops) :
    ∃ onion innermost inside,
      build cipher turn path destination payload = .ok onion ∧
      onion.guardNode = path.hops.head path.nonempty ∧
      path.hops.tail.tails.map (layerFor cipher turn destination payload) = inside.map .ok ∧
      inside.getLast? = some innermost ∧
      peelHops opener (path.hops.map secret) onion.ephemeral onion.ciphertext
        = some (List.zipWith found (path.hops.tail.map .node ++ [destination]) inside,
            innermost.ephemeral, innermost.ciphertext) ∧
      opener endSecret innermost.ephemeral innermost.ciphertext = .ok (payload, onion.replyKey) := by
  obtain ⟨innermost, made, opened⟩ := layer_of_opens ending turn payload
  obtain ⟨outermost, inside, whole, layers, peeled⟩ := peelHops_layerFor opens port made fit
  obtain ⟨hop, rest, form⟩ := List.exists_cons_of_ne_nil path.nonempty
  have layers' : rest.tails.map (layerFor cipher turn destination payload) = inside.map .ok := by
    rw [form, List.tails, List.map_cons, List.map_cons] at layers
    exact (List.cons.inj layers).2
  refine ⟨⟨path.guardNode, outermost.ciphertext, outermost.ephemeral, innermost.key⟩, innermost,
    inside, ?_, rfl, ?_, ?_, ?_, opened⟩
  · rw [build_eq apart made, whole]
  · rw [form]
    exact layers'
  · exact getLast?_inside made rest layers'
  · rw [peeled, form, targets_eq]
    rfl

/-! ### A destination on the path -/

theorem layer_ne_destinationInPath (cipher : LayerCipher) (turn : Nat) (text : Bytes)
    (key : Except DirectoryFailure Bytes) (n : Node) :
    layer cipher turn text key ≠ .error (.destinationInPath n) := by
  intro failed
  unfold layer at failed
  cases key with
  | error cause => cases failed
  | ok bytes =>
    simp only [recipient] at failed
    cases made : cipher.encrypt turn text bytes with
    | error cause => rw [made] at failed; cases failed
    | ok l => rw [made] at failed; cases failed

theorem wrap_ne_destinationInPath (cipher : LayerCipher) (turn : Nat) (backwards : List Node)
    (inner : Layer) (routing : Json) (n : Node) :
    wrap cipher turn backwards inner routing ≠ .error (.destinationInPath n) := by
  induction backwards generalizing turn inner routing with
  | nil =>
    intro failed
    cases failed
  | cons hop rest ih =>
    intro failed
    unfold wrap hopText at failed
    cases framed : Framing.encodePayload inner.ciphertext
        (routing.insert "ephemeral_key" (.text (Text.Hex.encode inner.ephemeral))) with
    | error cause =>
      simp only [framed] at failed
      cases failed
    | ok text =>
      simp only [framed] at failed
      cases made : layer cipher turn text hop.layerKey with
      | error e =>
        simp only [made] at failed
        exact layer_ne_destinationInPath cipher turn text hop.layerKey n (made.trans failed)
      | ok outer =>
        simp only [made] at failed
        exact ih _ _ _ failed

/-- Building finds the destination among the hops exactly when it is a node that is one. -/
theorem build_destinationInPath_iff {path : Path} {n : Node} :
    build cipher turn path destination payload = .error (.destinationInPath n) ↔
      destination = .node n ∧ path.contains n = true := by
  unfold build
  constructor
  -- the layers fail in other ways, so it is the first check that has failed
  · intro failed
    cases refused : destination.node?.filter path.contains with
    | some m =>
      simp only [refused] at failed
      cases failed
      obtain ⟨isNode, isHop⟩ := Option.filter_eq_some_iff.1 refused
      cases destination with
      | node n' => exact ⟨congrArg Destination.node (Option.some.inj isNode), isHop⟩
      | server s => cases isNode
    | none =>
      simp only [refused] at failed
      cases ending : layer cipher turn payload destination.layerKey with
      | error e =>
        simp only [ending] at failed
        rw [Except.error.inj failed] at ending
        exact (layer_ne_destinationInPath _ _ _ _ n ending).elim
      | ok innermost =>
        simp only [ending] at failed
        cases wrapped : wrap cipher (turn + 1) path.hops.reverse innermost destination.routing with
        | error e =>
          simp only [wrapped] at failed
          rw [Except.error.inj failed] at wrapped
          exact (wrap_ne_destinationInPath _ _ _ _ _ n wrapped).elim
        | ok outermost =>
          simp only [wrapped] at failed
          cases failed
  · rintro ⟨rfl, isHop⟩
    have refused : (Destination.node n).node?.filter path.contains = some n :=
      Option.filter_eq_some_iff.2 ⟨rfl, isHop⟩
    simp only [refused]

/-! ### The cipher without secrets

It keeps the law: its recipients' secrets are their keys, and both sides change each byte by the
number of the layer. -/

/-- Opens a layer of the cipher without secrets. -/
def openTransparent : Opener := fun secret ephemeral ciphertext =>
  let key := List.zipWith (· ^^^ ·) secret ephemeral
  match LayerCipher.unmark ciphertext key with
  | .ok text => .ok (text, key)
  | .error e => .error e

theorem unmark_mark {key : Bytes} (long : LayerCipher.markLength ≤ key.length) (text : Bytes) :
    LayerCipher.unmark (key.take LayerCipher.markLength ++ text) key = .ok text := by
  have marked : (key.take LayerCipher.markLength).length = LayerCipher.markLength := by
    rw [List.length_take]
    omega
  rw [LayerCipher.unmark, if_neg (by rw [List.length_append, marked]; omega),
    List.take_left' marked, if_pos rfl, List.drop_left' marked]

theorem opens_transparent {bytes : Bytes} (length : bytes.length = 32)
    (nonzero : bytes.all (· == 0) = false) :
    Opens LayerCipher.transparent openTransparent (readKey (Text.Hex.encode bytes)) bytes := by
  refine ⟨bytes, ?_, fun turn text => ⟨_, if_neg (by simp [nonzero]), ?_⟩⟩
  · rw [readKey, Text.Hex.decode_encode]
    exact if_pos length
  · have shared : List.zipWith (· ^^^ ·) bytes (Bytes.fill 32 (UInt8.ofNat turn))
        = bytes.map (· ^^^ UInt8.ofNat turn) := by
      rw [Bytes.fill, ← length, ← List.map_const', List.zipWith_map_right, List.zipWith_self]
    have long : LayerCipher.markLength ≤ (bytes.map (· ^^^ UInt8.ofNat turn)).length := by
      rw [List.length_map, length]
      decide
    simp only [openTransparent, shared, unmark_mark long]

/-- What succeeds gives something. -/
theorem exists_of_isOk {ε α : Type} {result : Except ε α} (isOk : result.isOk = true) :
    ∃ a, result = .ok a := by
  cases result with
  | error e => cases isOk
  | ok a => exact ⟨a, rfl⟩

/-- A node for trials. -/
def trialNode (n : UInt8) : Node :=
  ⟨"https://10.1.0.1", n.toNat, ⟨"key", Text.Hex.encode (Bytes.fill 32 n)⟩, ⟨2, 8, 0⟩⟩

/-- A path for trials. -/
def trialPath : Path := ⟨[trialNode 1, trialNode 2], by decide, by decide⟩

theorem peelHops_build_trialPath :
    ∃ onion innermost inside,
      build LayerCipher.transparent 0 trialPath (.node (trialNode 3)) [1, 2, 3] = .ok onion ∧
      onion.guardNode = trialNode 1 ∧
      [[trialNode 2], []].map (layerFor LayerCipher.transparent 0 (.node (trialNode 3)) [1, 2, 3])
        = inside.map .ok ∧
      inside.getLast? = some innermost ∧
      peelHops openTransparent [Bytes.fill 32 1, Bytes.fill 32 2] onion.ephemeral onion.ciphertext
        = some (List.zipWith found [.node (trialNode 2), .node (trialNode 3)] inside,
            innermost.ephemeral, innermost.ciphertext) ∧
      openTransparent (Bytes.fill 32 3) innermost.ephemeral innermost.ciphertext
        = .ok ([1, 2, 3], onion.replyKey) := by
  have opens : ∀ n : UInt8, n ≠ 0 → Opens LayerCipher.transparent openTransparent
      (trialNode n).layerKey (Bytes.fill 32 n) := by
    intro n nonzero
    exact opens_transparent List.length_replicate (by simp [Bytes.fill, nonzero])
  have hops : ∀ n ∈ trialPath.hops, Opens LayerCipher.transparent openTransparent n.layerKey
      (Bytes.fill 32 (UInt8.ofNat n.port)) := by
    intro n mem
    rcases List.mem_cons.1 mem with rfl | mem
    · exact opens 1 (by decide)
    · rw [List.mem_singleton.1 mem]
      exact opens 2 (by decide)
  have apart : ∀ n, Destination.node (trialNode 3) = .node n → trialPath.contains n = false := by
    intro n same
    rw [← Destination.node.inj same]
    decide
  exact peelHops_build hops (opens 3 (by decide)) apart trivial (by decide +kernel)

end OnionSwarm.Onion

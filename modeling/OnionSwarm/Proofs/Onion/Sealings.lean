/-
What a hop can learn from its layer.

Building encrypts for the destination first and then hop by hop back to the guard, and each round
has nothing to work with but the layer so far, the instructions for going on, and the next hop.  So
the hops that are still to come cannot have left a trace in it.  To say so, the loop is run with a
record of what it encrypts (`wrapAll`), which comes to the same onion (`wrap_eq`).  Two paths that
end alike begin their loops alike, and what a loop has recorded it never touches again
(`wrapAll_append`, `exists_own`).

The record needs no law of the cipher.  Where a cipher keeps its law, the record is what the hops
find when they peel: after some hops have opened their layers, what is left is the layer that is
made for the hops behind them (`peelHops_append`).
-/
import Mathlib.Tactic.Common
import OnionSwarm.Proofs.Onion.Layers

namespace OnionSwarm.Onion

variable {cipher : LayerCipher} {opener : Opener} {turn : Nat} {destination : Destination}
  {payload : Bytes}

/-! ### The record of a build -/

/-- What is encrypted for a hop or for the destination, and the layer that it becomes. -/
structure Sealing where
  text : Bytes
  layer : Layer
  deriving DecidableEq, Repr

/-- The sealings so far, the outermost one apart. -/
structure Wrapped where
  outermost : Sealing
  inside : List Sealing
  deriving DecidableEq, Repr

namespace Wrapped

def toList (w : Wrapped) : List Sealing := w.outermost :: w.inside

def add (w : Wrapped) (s : Sealing) : Wrapped := ⟨s, w.toList⟩

end Wrapped

/-- `wrap`, with a record of all that is sealed. -/
def wrapAll (cipher : LayerCipher) : (turn : Nat) → (backwards : List Node) → Wrapped → Json →
    Except BuildFailure Wrapped
  | _, [], made, _ => .ok made
  | turn, hop :: rest, made, routing =>
    match hopText made.outermost.layer routing with
    | .error e => .error e
    | .ok text =>
      match layer cipher turn text hop.layerKey with
      | .error e => .error e
      | .ok outer =>
        wrapAll cipher (turn + 1) rest (made.add ⟨text, outer⟩) (Destination.node hop).routing

/-- All that building seals for these hops and the destination, the first hop's sealing first. -/
def sealings (cipher : LayerCipher) (turn : Nat) (hops : List Node) (destination : Destination)
    (payload : Bytes) : Except BuildFailure (List Sealing) :=
  match layer cipher turn payload destination.layerKey with
  | .error e => .error e
  | .ok innermost =>
    (wrapAll cipher (turn + 1) hops.reverse ⟨⟨payload, innermost⟩, []⟩ destination.routing).map
      Wrapped.toList

/-- The record makes no difference. -/
theorem wrap_eq (turn : Nat) (backwards : List Node) (made : Wrapped) (routing : Json) :
    wrap cipher turn backwards made.outermost.layer routing
      = (wrapAll cipher turn backwards made routing).map fun w => w.outermost.layer := by
  induction backwards generalizing turn made routing with
  | nil => rfl
  | cons hop rest ih =>
    simp only [wrap, wrapAll]
    cases hopText made.outermost.layer routing with
    | error e => rfl
    | ok text =>
      simp only
      cases layer cipher turn text hop.layerKey with
      | error e => rfl
      | ok outer => exact ih (turn + 1) (made.add ⟨text, outer⟩) _

/-- Wrapping for some hops and then for others is one run. -/
theorem wrapAll_append (turn : Nat) (first second : List Node) (made : Wrapped) (routing : Json) :
    wrapAll cipher turn (first ++ second) made routing
      = (wrapAll cipher turn first made routing).bind fun w =>
          wrapAll cipher (turn + first.length) second w (routingAfter routing first) := by
  induction first generalizing turn made routing with
  | nil => rfl
  | cons hop rest ih =>
    simp only [List.cons_append, wrapAll]
    cases hopText made.outermost.layer routing with
    | error e => rfl
    | ok text =>
      simp only
      cases layer cipher turn text hop.layerKey with
      | error e => rfl
      | ok outer =>
        have count : turn + 1 + rest.length = turn + (hop :: rest).length := by
          rw [List.length_cons]
          omega
        simp only
        rw [ih, routingAfter_cons, count]

/-- What was sealed stays as it is, and one sealing comes before it for each hop. -/
theorem exists_own {backwards : List Node} {made w : Wrapped} {routing : Json}
    (wrapped : wrapAll cipher turn backwards made routing = .ok w) :
    ∃ own, own.length = backwards.length ∧ w.toList = own ++ made.toList := by
  induction backwards generalizing turn made routing with
  | nil =>
    obtain rfl := Except.ok.inj wrapped
    exact ⟨[], rfl, rfl⟩
  | cons hop rest ih =>
    simp only [wrapAll] at wrapped
    split at wrapped
    · cases wrapped
    · rename_i text _
      split at wrapped
      · cases wrapped
      · rename_i outer _
        obtain ⟨own, length, form⟩ := ih wrapped
        refine ⟨own ++ [⟨text, outer⟩], ?_, ?_⟩
        · rw [List.length_append, length]
          rfl
        · rw [form, List.append_assoc]
          rfl

/-- The record of a build that came to an onion: the guard gets the first layer, and the last one is
the destination's. -/
structure ComesTo (payload : Bytes) (all : List Sealing) (onion : Onion) : Prop where
  outermost : ∃ s, all.head? = some s ∧ s.layer.ciphertext = onion.ciphertext ∧
    s.layer.ephemeral = onion.ephemeral
  innermost : ∃ s, all.getLast? = some s ∧ s.text = payload ∧ s.layer.key = onion.replyKey

/-- What a build was made of. -/
theorem layers_of_build {path : Path} {onion : Onion}
    (built : build cipher turn path destination payload = .ok onion) :
    ∃ innermost outermost, layer cipher turn payload destination.layerKey = .ok innermost ∧
      wrap cipher (turn + 1) path.hops.reverse innermost destination.routing = .ok outermost ∧
      onion = ⟨path.guardNode, outermost.ciphertext, outermost.ephemeral, innermost.key⟩ := by
  unfold build at built
  split at built
  · cases built
  · split at built
    · cases built
    · rename_i innermost ending
      split at built
      · cases built
      · rename_i outermost wrapped
        exact ⟨innermost, outermost, ending, wrapped, (Except.ok.inj built).symm⟩

/-- Along a path that ends in some hops, the build has a moment at which it has wrapped for those
hops, and the record of that moment is the end of the whole record. -/
theorem wrapped_of_build {path : Path} {onion : Onion} {before shared : List Node}
    (hops : path.hops = before ++ shared)
    (built : build cipher turn path destination payload = .ok onion) :
    ∃ innermost w own, layer cipher turn payload destination.layerKey = .ok innermost ∧
      wrapAll cipher (turn + 1) shared.reverse ⟨⟨payload, innermost⟩, []⟩ destination.routing
        = .ok w ∧
      onion.replyKey = innermost.key ∧ own.length = before.length ∧
      sealings cipher turn path.hops destination payload = .ok (own ++ w.toList) ∧
      ComesTo payload (own ++ w.toList) onion := by
  obtain ⟨innermost, outermost, ending, wrapped, rfl⟩ := layers_of_build built
  rw [wrap_eq (turn + 1) path.hops.reverse ⟨⟨payload, innermost⟩, []⟩] at wrapped
  cases whole : wrapAll cipher (turn + 1) path.hops.reverse ⟨⟨payload, innermost⟩, []⟩
      destination.routing with
  | error e =>
    rw [whole] at wrapped
    cases wrapped
  | ok full =>
    rw [whole] at wrapped
    obtain rfl := Except.ok.inj wrapped
    have recorded : sealings cipher turn path.hops destination payload = .ok full.toList := by
      simp only [sealings, ending, whole]
      rfl
    rw [hops, List.reverse_append, wrapAll_append] at whole
    -- the moment is where the rounds for the shared hops end
    cases moment : wrapAll cipher (turn + 1) shared.reverse ⟨⟨payload, innermost⟩, []⟩
        destination.routing with
    | error e =>
      rw [moment] at whole
      cases whole
    | ok w =>
      rw [moment] at whole
      obtain ⟨own, length, form⟩ := exists_own whole
      obtain ⟨first, -, ends⟩ := exists_own moment
      refine ⟨innermost, w, own, ending, moment, rfl, by simpa using length, ?_, ?_⟩
      · rw [recorded, form]
      · rw [← form]
        refine ⟨⟨full.outermost, rfl, rfl, rfl⟩, ⟨⟨payload, innermost⟩, ?_, rfl, rfl⟩⟩
        rw [form, ends]
        simp [Wrapped.toList]

/-! ### What the hops find -/

/-- The law of a cipher for one recipient: its secret opens every layer that is made for its key. -/
def Unseals (cipher : LayerCipher) (opener : Opener) (key : Except DirectoryFailure Bytes)
    (secret : Bytes) : Prop :=
  ∀ bytes, key = .ok bytes → ∀ turn text l, cipher.encrypt turn text bytes = .ok l →
    opener secret l.ephemeral l.ciphertext = .ok (text, l.key)

theorem Opens.unseals {key : Except DirectoryFailure Bytes} {secret : Bytes}
    (opens : Opens cipher opener key secret) : Unseals cipher opener key secret := by
  obtain ⟨bytes, rfl, works⟩ := opens
  intro bytes' same turn text l made
  obtain rfl := Except.ok.inj same
  obtain ⟨l', made', opened⟩ := works turn text
  rw [made] at made'
  rw [Except.ok.inj made']
  exact opened

theorem Unseals.layer {key : Except DirectoryFailure Bytes} {secret text : Bytes} {l : Layer}
    (unseals : Unseals cipher opener key secret) (made : layer cipher turn text key = .ok l) :
    opener secret l.ephemeral l.ciphertext = .ok (text, l.key) := by
  obtain ⟨bytes, isKey, encrypted⟩ := layer_eq_ok_iff.1 made
  exact unseals bytes isKey turn text l encrypted

/-- A layer for some hops was made from the layer for the hops behind the first. -/
theorem layerFor_cons_eq_ok {hop : Node} {rest : List Node} {outer : Layer}
    (made : layerFor cipher turn destination payload (hop :: rest) = .ok outer) :
    ∃ inner text, layerFor cipher turn destination payload rest = .ok inner ∧
      Framing.encodePayload inner.ciphertext (told (nextStop destination rest) inner.ephemeral)
        = .ok text ∧
      layer cipher (turn + 1 + rest.length) text hop.layerKey = .ok outer := by
  unfold layerFor at made
  cases inside : layerFor cipher turn destination payload rest with
  | error e =>
    rw [inside] at made
    cases made
  | ok inner =>
    simp only [inside, hopText_eq] at made
    cases framed : Framing.encodePayload inner.ciphertext
        (told (nextStop destination rest) inner.ephemeral) with
    | error e =>
      rw [framed] at made
      cases made
    | ok text =>
      rw [framed] at made
      exact ⟨inner, text, rfl, framed, made⟩

theorem portFits_nextStop (port : PortFits destination) (rest : List Node) :
    PortFits (nextStop destination rest) := by
  cases rest with
  | nil => exact port
  | cons hop rest => trivial

/-- A hop that opens its layer finds the one inside and the instructions for it. -/
theorem peelHop_of_layerFor {hop : Node} {rest : List Node} {secret : Bytes} {outer : Layer}
    (unseals : Unseals cipher opener hop.layerKey secret) (port : PortFits destination)
    (made : layerFor cipher turn destination payload (hop :: rest) = .ok outer) :
    ∃ inner, layerFor cipher turn destination payload rest = .ok inner ∧
      peelHop opener secret outer.ephemeral outer.ciphertext
        = some (found (nextStop destination rest) inner) := by
  obtain ⟨inner, text, inside, framed, sealed⟩ := layerFor_cons_eq_ok made
  have kept := kept_told (portFits_nextStop port rest) inner.ephemeral
  refine ⟨inner, inside, ?_⟩
  rw [peelHop, unseals.layer sealed]
  simp only [Framing.decodePayload_encodePayload kept framed]
  rfl

/-- Hops that open their layers leave the layer for the hops behind them. -/
theorem peelHops_of_layerFor {before shared : List Node} {secret : Node → Bytes} {outer : Layer}
    (unseals : ∀ n ∈ before, Unseals cipher opener n.layerKey (secret n))
    (port : PortFits destination)
    (made : layerFor cipher turn destination payload (before ++ shared) = .ok outer) :
    ∃ inner seen, layerFor cipher turn destination payload shared = .ok inner ∧
      seen.length = before.length ∧
      peelHops opener (before.map secret) outer.ephemeral outer.ciphertext
        = some (seen, inner.ephemeral, inner.ciphertext) := by
  induction before generalizing outer with
  | nil => exact ⟨outer, [], made, rfl, rfl⟩
  | cons hop rest ih =>
    rw [List.cons_append] at made
    obtain ⟨next, inside, first⟩ :=
      peelHop_of_layerFor (unseals hop List.mem_cons_self) port made
    obtain ⟨inner, seen, left, length, peeled⟩ :=
      ih (fun n mem => unseals n (List.mem_cons_of_mem hop mem)) inside
    refine ⟨inner, found (nextStop destination (rest ++ shared)) next :: seen, left, ?_, ?_⟩
    · rw [List.length_cons, length, List.length_cons]
    · have inward : (found (nextStop destination (rest ++ shared)) next).inner
          = next.ciphertext := rfl
      rw [List.map_cons, peelHops, first]
      simp only [Option.bind_eq_bind, Option.bind_some, ephemeral?_found, inward, peeled]

theorem peelHops_append (first second : List Bytes) (ephemeral ciphertext : Bytes) :
    peelHops opener (first ++ second) ephemeral ciphertext
      = (peelHops opener first ephemeral ciphertext).bind fun front =>
          (peelHops opener second front.2.1 front.2.2).map fun back =>
            (front.1 ++ back.1, back.2) := by
  induction first generalizing ephemeral ciphertext with
  | nil =>
    simp only [List.nil_append, peelHops, Option.bind_some]
    cases peelHops opener second ephemeral ciphertext <;> rfl
  | cons secret rest ih =>
    simp only [List.cons_append, peelHops, Option.bind_eq_bind]
    cases peelHop opener secret ephemeral ciphertext with
    | none => rfl
    | some peeled =>
      simp only [Option.bind_some]
      cases peeled.ephemeral? with
      | none => rfl
      | some next =>
        simp only [Option.bind_some, ih]
        cases peelHops opener rest next peeled.inner with
        | none => rfl
        | some front =>
          simp only [Option.bind_some]
          cases peelHops opener second front.2.1 front.2.2 <;> rfl

/-- An onion carries the layer for the whole path. -/
theorem layerFor_of_build {path : Path} {onion : Onion}
    (built : build cipher turn path destination payload = .ok onion) :
    ∃ innermost outermost, layerFor cipher turn destination payload [] = .ok innermost ∧
      layerFor cipher turn destination payload path.hops = .ok outermost ∧
      onion = ⟨path.guardNode, outermost.ciphertext, outermost.ephemeral, innermost.key⟩ := by
  obtain ⟨innermost, outermost, ending, wrapped, form⟩ := layers_of_build built
  rw [wrap_reverse ending] at wrapped
  exact ⟨innermost, outermost, ending, wrapped, form⟩

/-- The hops at the end of a path find what was made for them, whatever stands before them. -/
theorem peelHops_of_build {path : Path} {onion : Onion} {before shared : List Node}
    {secret : Node → Bytes} (hops : path.hops = before ++ shared)
    (built : build cipher turn path destination payload = .ok onion) (port : PortFits destination)
    (unseals : ∀ n ∈ path.hops, Unseals cipher opener n.layerKey (secret n)) :
    ∃ inner own, layerFor cipher turn destination payload shared = .ok inner ∧
      own.length = before.length ∧
      peelHops opener (path.hops.map secret) onion.ephemeral onion.ciphertext
        = (peelHops opener (shared.map secret) inner.ephemeral inner.ciphertext).map fun found =>
            (own ++ found.1, found.2) := by
  obtain ⟨innermost, outermost, -, whole, rfl⟩ := layerFor_of_build built
  rw [hops] at whole unseals ⊢
  obtain ⟨inner, own, left, length, peeled⟩ := peelHops_of_layerFor
    (fun n mem => unseals n (List.mem_append_left shared mem)) port whole
  refine ⟨inner, own, left, length, ?_⟩
  rw [List.map_append, peelHops_append, peeled, Option.bind_some]

/-! ### Two paths that end alike -/

/--
**A hop learns nothing about the hops before it.**  Two onions for the same destination and payload
go along paths of any lengths that end in the same hops.  Then the same texts are encrypted for
these hops and for the destination, into the same layers, whatever and however many hops come
before; and where the secrets of the hops open what is made for their keys, these hops find the
same, and the same is left for the destination.
-/
theorem shared_hops_learn_alike {p q : Path} {before before' shared : List Node}
    {onion onion' : Onion} (hops : p.hops = before ++ shared) (hops' : q.hops = before' ++ shared)
    (built : build cipher turn p destination payload = .ok onion)
    (built' : build cipher turn q destination payload = .ok onion') :
    (∃ own own' common,
      own.length = before.length ∧ own'.length = before'.length ∧
      common.length = shared.length + 1 ∧
      sealings cipher turn p.hops destination payload = .ok (own ++ common) ∧
      ComesTo payload (own ++ common) onion ∧
      sealings cipher turn q.hops destination payload = .ok (own' ++ common) ∧
      ComesTo payload (own' ++ common) onion') ∧
    onion.replyKey = onion'.replyKey ∧
    ∀ (opener : Opener) (secret : Node → Bytes), PortFits destination →
      (∀ n ∈ p.hops ++ q.hops, Unseals cipher opener n.layerKey (secret n)) →
      ∃ own own' common left,
        own.length = before.length ∧ own'.length = before'.length ∧
        common.length = shared.length ∧
        peelHops opener (p.hops.map secret) onion.ephemeral onion.ciphertext
          = some (own ++ common, left) ∧
        peelHops opener (q.hops.map secret) onion'.ephemeral onion'.ciphertext
          = some (own' ++ common, left) := by
  obtain ⟨innermost, w, own, ending, moment, kept, length, recorded, comes⟩ :=
    wrapped_of_build hops built
  obtain ⟨innermost', w', own', ending', moment', kept', length', recorded', comes'⟩ :=
    wrapped_of_build hops' built'
  -- up to this moment both builds have done the same
  obtain rfl : innermost = innermost' := Except.ok.inj (ending.symm.trans ending')
  obtain rfl : w = w' := Except.ok.inj (moment.symm.trans moment')
  refine ⟨⟨own, own', w.toList, length, length', ?_, recorded, comes, recorded', comes'⟩,
    kept.trans kept'.symm, ?_⟩
  · obtain ⟨front, count, form⟩ := exists_own moment
    rw [form, List.length_append, count, List.length_reverse]
    rfl
  · intro opener secret port unseals
    obtain ⟨inner, own, made, length, peeled⟩ := peelHops_of_build hops built port
      fun n mem => unseals n (List.mem_append_left _ mem)
    obtain ⟨inner', own', made', length', peeled'⟩ := peelHops_of_build hops' built' port
      fun n mem => unseals n (List.mem_append_right _ mem)
    obtain rfl : inner = inner' := Except.ok.inj (made.symm.trans made')
    have within : ∀ n ∈ shared, Unseals cipher opener n.layerKey (secret n) := by
      intro n mem
      refine unseals n (List.mem_append_left _ ?_)
      rw [hops]
      exact List.mem_append_right before mem
    have whole : layerFor cipher turn destination payload (shared ++ []) = .ok inner := by
      rw [List.append_nil, made]
    obtain ⟨last, common, -, count, found⟩ := peelHops_of_layerFor within port whole
    refine ⟨own, own', common, (last.ephemeral, last.ciphertext), length, length', count, ?_, ?_⟩
    · rw [peeled, found]
      rfl
    · rw [peeled', found]
      rfl

/-- A longer path that ends like the other one. -/
def trialDetour : Path := ⟨[trialNode 4, trialNode 5, trialNode 2], by decide, by decide⟩

/-- The onion of a trial is short, and the key for its reply is long enough to mark a text. -/
theorem exists_build_trialPath :
    ∃ onion, build LayerCipher.transparent 0 trialPath (.node (trialNode 3)) [1, 2, 3] = .ok onion ∧
      onion.ciphertext.length < Framing.payloadLimit ∧
      LayerCipher.markLength ≤ onion.replyKey.length := by
  have made : (build LayerCipher.transparent 0 trialPath (.node (trialNode 3))
      [1, 2, 3]).toOption.any (fun onion =>
        onion.ciphertext.length < Framing.payloadLimit &&
          LayerCipher.markLength ≤ onion.replyKey.length) = true := by decide +kernel
  cases built : build LayerCipher.transparent 0 trialPath (.node (trialNode 3)) [1, 2, 3] with
  | error e =>
    rw [built] at made
    cases made
  | ok onion =>
    rw [built] at made
    refine ⟨onion, rfl, ?_⟩
    simpa [Except.toOption] using made

/-- The secret of a node for trials, whose port is its number. -/
def trialSecret (n : Node) : Bytes := Bytes.fill 32 (UInt8.ofNat n.port)

theorem unseals_trialSecret {i : UInt8} (nonzero : i ≠ 0) :
    Unseals LayerCipher.transparent openTransparent (trialNode i).layerKey
      (trialSecret (trialNode i)) := by
  have secret : trialSecret (trialNode i) = Bytes.fill 32 i :=
    congrArg (Bytes.fill 32) UInt8.ofNat_toNat
  rw [secret]
  exact (opens_transparent List.length_replicate (by simp [nonzero])).unseals

theorem shared_hops_learn_alike_trialDetour :
    ∃ onion onion' own own' common found found' seen left,
      build LayerCipher.transparent 0 trialPath (.node (trialNode 3)) [1, 2, 3] = .ok onion ∧
      build LayerCipher.transparent 0 trialDetour (.node (trialNode 3)) [1, 2, 3] = .ok onion' ∧
      own.length = 1 ∧ own'.length = 2 ∧ common.length = 2 ∧
      sealings LayerCipher.transparent 0 trialPath.hops (.node (trialNode 3)) [1, 2, 3]
        = .ok (own ++ common) ∧
      sealings LayerCipher.transparent 0 trialDetour.hops (.node (trialNode 3)) [1, 2, 3]
        = .ok (own' ++ common) ∧
      found.length = 1 ∧ found'.length = 2 ∧ seen.length = 1 ∧
      peelHops openTransparent [Bytes.fill 32 1, Bytes.fill 32 2] onion.ephemeral onion.ciphertext
        = some (found ++ seen, left) ∧
      peelHops openTransparent [Bytes.fill 32 4, Bytes.fill 32 5, Bytes.fill 32 2]
          onion'.ephemeral onion'.ciphertext
        = some (found' ++ seen, left) := by
  have hops : trialPath.hops = [trialNode 1] ++ [trialNode 2] := rfl
  have hops' : trialDetour.hops = [trialNode 4, trialNode 5] ++ [trialNode 2] := rfl
  have unseals : ∀ n ∈ trialPath.hops ++ trialDetour.hops,
      Unseals LayerCipher.transparent openTransparent n.layerKey (trialSecret n) := by
    intro n mem
    have isTrial : ∃ i : UInt8, i ≠ 0 ∧ n = trialNode i := by
      simp only [hops, hops', List.cons_append, List.nil_append, List.mem_cons,
        List.not_mem_nil, or_false] at mem
      rcases mem with rfl | rfl | rfl | rfl | rfl
      all_goals exact ⟨_, by decide, rfl⟩
    obtain ⟨i, nonzero, rfl⟩ := isTrial
    exact unseals_trialSecret nonzero
  have isOk : (build LayerCipher.transparent 0 trialDetour (.node (trialNode 3)) [1, 2, 3]).isOk
      = true := by decide +kernel
  obtain ⟨onion, built, -⟩ := exists_build_trialPath
  obtain ⟨onion', built'⟩ := exists_of_isOk isOk
  obtain ⟨⟨own, own', common, length, length', count, recorded, -, recorded', -⟩, -, peels⟩ :=
    shared_hops_learn_alike hops hops' built built'
  obtain ⟨found, found', seen, left, many, many', few, peeled, peeled'⟩ :=
    peels openTransparent trialSecret trivial unseals
  exact ⟨onion, onion', own, own', common, found, found', seen, left, built, built', length,
    length', count, recorded, recorded', many, many', few, peeled, peeled'⟩

end OnionSwarm.Onion

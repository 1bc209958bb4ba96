/-
What a failed exchange costs.

An exchange fails when the guard gives no answer, when it answers with a plain error, and when it
answers with something that no destination sealed.  Each answer speaks against nobody, against one
node, or against the path, and what is given up follows from that alone: a node leaves the pool and
the guards, a path loses its guard.  What an answer costs (`Costs`) is stated answer by answer, on a
pool and guards that may be any; that reading an answer and then judging the path does just that is
the theorem at the end.
-/
import Mathlib.Tactic.Common
import OnionSwarm.Proofs.Client.Calls
import OnionSwarm.Proofs.Client.Paths
import OnionSwarm.Proofs.Onion.Blame

namespace OnionSwarm

variable {ω : Type}

/-! ### Answers -/

namespace GuardReply

theorem occurs_iff {marker text : List Char} : occurs marker text = true ↔ marker <:+: text := by
  induction text with
  | nil => simp [occurs]
  | cons c rest ih => simp [occurs, ih, List.infix_cons_iff]

/-- An error reply that blames no node is the word of the destination. -/
def Harmless (code : Nat) (text : String) : Prop :=
  code ∈ harmlessStatuses ∨ blindingRequired.toList <:+: text.toList

variable {guardNode : Node} {destination : Destination} {code : Nat} {body : Bytes} {key : String}

theorem classify_of_blames (blames : Blames guardNode code (Text.Utf8.lossy body) key) :
    classify guardNode destination code body
      = if destination.node?.any (·.key == key) then
          .destinationUnreachable ⟨code, some (Text.Utf8.lossy body), none⟩
        else .hopFailed guardNode key ⟨code, some (Text.Utf8.lossy body), none⟩ := by
  simp only [classify, blamedKey?_eq_some_iff.2 blames]

theorem classify_of_not_blames
    (blames : ∀ key, ¬ Blames guardNode code (Text.Utf8.lossy body) key) :
    (Harmless code (Text.Utf8.lossy body) →
        classify guardNode destination code body
          = .destinationRefused ⟨code, some (Text.Utf8.lossy body), none⟩) ∧
      (¬ Harmless code (Text.Utf8.lossy body) →
        classify guardNode destination code body
          = .guardRefused guardNode ⟨code, some (Text.Utf8.lossy body), none⟩) := by
  have harmless : (code ∈ harmlessStatuses ||
      occurs blindingRequired.toList (Text.Utf8.lossy body).toList) = true
        ↔ Harmless code (Text.Utf8.lossy body) := by
    rw [Bool.or_eq_true, decide_eq_true_iff, occurs_iff, Harmless]
  simp only [classify, blamedKey?_eq_none_iff.2 blames]
  exact ⟨fun is => if_pos (harmless.2 is), fun is => if_neg (is ∘ harmless.1)⟩

end GuardReply

namespace Exchange

variable {cipher : LayerCipher} {onion : Onion}

/-- No destination sealed this: it cannot be opened, or is no message, or names no status code. -/
def Unreadable (cipher : LayerCipher) (onion : Onion) (body : Bytes) : Prop :=
  ∀ bytes info content, cipher.decrypt body onion.replyKey = .ok bytes →
    Framing.decodeMessage bytes = .ok (info, content) → code? info = none

theorem readReply_of_unreadable {body : Bytes} (unreadable : Unreadable cipher onion body)
    (destination : Destination) :
    ∃ reason, readReply cipher onion.replyKey destination body = .error (.badReply reason) := by
  unfold readReply
  cases opened : cipher.decrypt body onion.replyKey with
  | error e => exact ⟨_, rfl⟩
  | ok bytes =>
    dsimp only
    cases decoded : Framing.decodeMessage bytes with
    | error e => exact ⟨_, rfl⟩
    | ok message =>
      have uncoded := unreadable bytes message.1 message.2 opened decoded
      refine ⟨"response info has no status code", ?_⟩
      simp only [judge, uncoded]

/-- The answers that a destination has no part in. -/
inductive Fails (cipher : LayerCipher) (onion : Onion) : Except HttpFailure HttpReply → Prop
  | noAnswer (e : HttpFailure) : Fails cipher onion (.error e)
  | plain {reply : HttpReply} (status : isSuccess reply.status = false) :
    Fails cipher onion (.ok reply)
  | unreadable {reply : HttpReply} (status : isSuccess reply.status = true)
    (unreadable : Unreadable cipher onion reply.body) : Fails cipher onion (.ok reply)

theorem readAnswer_plain {destination : Destination} {reply : HttpReply}
    (status : isSuccess reply.status = false) :
    readAnswer cipher onion destination (.ok reply)
      = .error (GuardReply.classify onion.guardNode destination reply.status reply.body) := by
  rw [readAnswer, if_neg (by rw [status]; exact Bool.false_ne_true)]

end Exchange

theorem Onion.guardNode_of_build {cipher : LayerCipher} {turn : Nat} {path : Path}
    {destination : Destination} {payload : Bytes} {onion : Onion}
    (built : build cipher turn path destination payload = .ok onion) :
    onion.guardNode = path.guardNode := by
  unfold build at built
  split at built
  · cases built
  · split at built
    · cases built
    · split at built
      · cases built
      · rw [← Except.ok.inj built]

/-! ### Costs -/

namespace Paths

open GuardReply Exchange

/-- What is left of the pool and the guards, and what is decided about the call. -/
structure Cost where
  pool : List Node
  guards : List Node
  decision : Option Decision

/-- What the answer of the guard costs, if the onion went along the path. -/
inductive Costs (cipher : LayerCipher) (onion : Onion) (path : Path) (destination : Destination)
    (pool guards : List Node) : Except HttpFailure HttpReply → Cost → Prop
  /-- Without an answer the guard is given up. -/
  | noAnswer (e : HttpFailure) :
    Costs cipher onion path destination pool guards (.error e)
      ⟨pool, Guards.afterBadPath guards path, some .retry⟩
  /-- So it is for a reply that no destination sealed. -/
  | unreadable {reply : HttpReply} (status : isSuccess reply.status = true)
    (unreadable : Unreadable cipher onion reply.body) :
    Costs cipher onion path destination pool guards (.ok reply)
      ⟨pool, Guards.afterBadPath guards path, some .retry⟩
  /-- A destination that is blamed costs nothing, and nothing is decided. -/
  | destination {reply : HttpReply} {key : String} {target : Node}
    (status : isSuccess reply.status = false)
    (blames : Blames path.guardNode reply.status (Text.Utf8.lossy reply.body) key)
    (ends : destination = .node target) (same : target.key = key) :
    Costs cipher onion path destination pool guards (.ok reply) ⟨pool, guards, none⟩
  /-- A hop that is blamed is given up. -/
  | hop {reply : HttpReply} {key : String} {hop : Node}
    (status : isSuccess reply.status = false)
    (blames : Blames path.guardNode reply.status (Text.Utf8.lossy reply.body) key)
    (other : ∀ target, destination = .node target → target.key ≠ key)
    (isHop : hop ∈ path.hops) (same : hop.key = key) :
    Costs cipher onion path destination pool guards (.ok reply)
      ⟨Pool.without pool key, Pool.without guards key, some .retry⟩
  /-- A node that is blamed and is no hop is given up, and the guard with it. -/
  | stranger {reply : HttpReply} {key : String} (status : isSuccess reply.status = false)
    (blames : Blames path.guardNode reply.status (Text.Utf8.lossy reply.body) key)
    (other : ∀ target, destination = .node target → target.key ≠ key)
    (noHop : ∀ hop ∈ path.hops, hop.key ≠ key) :
    Costs cipher onion path destination pool guards (.ok reply)
      ⟨Pool.without pool key, Guards.afterBadPath (Pool.without guards key) path, some .retry⟩
  /-- The word of the destination costs nothing. -/
  | harmless {reply : HttpReply} (status : isSuccess reply.status = false)
    (blames : ∀ key, ¬ Blames path.guardNode reply.status (Text.Utf8.lossy reply.body) key)
    (harmless : Harmless reply.status (Text.Utf8.lossy reply.body)) :
    Costs cipher onion path destination pool guards (.ok reply) ⟨pool, guards, none⟩
  /-- Any other error is the guard's, which is given up, but nothing is decided. -/
  | refused {reply : HttpReply} (status : isSuccess reply.status = false)
    (blames : ∀ key, ¬ Blames path.guardNode reply.status (Text.Utf8.lossy reply.body) key)
    (harmless : ¬ Harmless reply.status (Text.Utf8.lossy reply.body)) :
    Costs cipher onion path destination pool guards (.ok reply)
      ⟨pool, Guards.afterBadPath guards path, none⟩

theorem not_any_node? {destination : Destination} {key : String}
    (other : ∀ target, destination = .node target → target.key ≠ key) :
    ¬ destination.node?.any (·.key == key) = true := by
  cases destination with
  | node target => exact fun same => other target rfl (beq_iff_eq.1 same)
  | server _ => exact Bool.false_ne_true

/-- Every answer that a destination has no part in has its cost. -/
theorem exists_costs {cipher : LayerCipher} {onion : Onion} {answer : Except HttpFailure HttpReply}
    (fails : Fails cipher onion answer) (path : Path) (destination : Destination)
    (pool guards : List Node) : ∃ cost, Costs cipher onion path destination pool guards answer cost := by
  cases fails with
  | noAnswer e => exact ⟨_, .noAnswer e⟩
  | unreadable status unreadable => exact ⟨_, .unreadable status unreadable⟩
  | @plain reply status =>
    by_cases blames : ∃ key, Blames path.guardNode reply.status (Text.Utf8.lossy reply.body) key
    · obtain ⟨key, blames⟩ := blames
      by_cases ends : ∃ target, destination = .node target ∧ target.key = key
      · obtain ⟨target, ends, same⟩ := ends
        exact ⟨_, .destination status blames ends same⟩
      · have other : ∀ target, destination = .node target → target.key ≠ key :=
          fun target is same => ends ⟨target, is, same⟩
        by_cases within : ∃ hop ∈ path.hops, hop.key = key
        · obtain ⟨hop, isHop, same⟩ := within
          exact ⟨_, .hop status blames other isHop same⟩
        · exact ⟨_, .stranger status blames other fun hop isHop same => within ⟨hop, isHop, same⟩⟩
    · have nobody := not_exists.1 blames
      by_cases harmless : Harmless reply.status (Text.Utf8.lossy reply.body)
      · exact ⟨_, .harmless status nobody harmless⟩
      · exact ⟨_, .refused status nobody harmless⟩

/-! ### Judging a path -/

theorem keeps_others_penalise (path : Path) (failure : OnionFailure) :
    Act.Keeps Client.others (penalise path failure : Act ω ApiFailure) :=
  keeps_penalise_of path keeps_others_dropKey (fun _ => rfl) failure

/-- The client has paid for a failure what it costs, and nothing else. -/
structure Pays (cause : OnionFailure) (cost : Cost) (c : Client ω)
    (judged : ApiFailure × Client ω) : Prop where
  pool : judged.2.store.viewPool = cost.pool
  guards : judged.2.guards = cost.guards
  decision : judged.1.attached? = cost.decision
  cause : judged.1.onion? = some cause
  swarms : judged.2.swarms = c.swarms
  others : judged.2.others = c.others

section

variable {path : Path} {cause : OnionFailure} {cost : Cost} {c : Client ω}

theorem pays_of (pool : (penalise path cause c).2.store.viewPool = cost.pool)
    (guards : (penalise path cause c).2.guards = cost.guards)
    (decision : (penalise path cause c).1.attached? = cost.decision) :
    Pays cause cost c (penalise path cause c) where
  pool := pool
  guards := guards
  decision := decision
  cause := onion?_penalise path cause c
  swarms := congrArg (·.1.1) ((errands_penalise path cause).keeps_affairs c)
  others := keeps_others_penalise path cause c

variable {reporter : Node} {key : String} {status : Status}

theorem pays_hopFailed_of_hop {hop : Node} (isHop : hop ∈ path.hops) (same : hop.key = key) :
    Pays (.hopFailed reporter key status)
      ⟨Pool.without c.store.viewPool key, Pool.without c.guards key, some .retry⟩ c
      (penalise path (.hopFailed reporter key status) c) := by
  have found : ∃ first, path.hopWithKey? key = some first ∧ first.key = key := by
    cases found : path.hopWithKey? key with
    | none => exact absurd (beq_iff_eq.2 same) (List.find?_eq_none.1 found hop isHop)
    | some first =>
      exact ⟨first, rfl, beq_iff_eq.1 (List.find?_some (p := fun n : Node => n.key == key) found)⟩
  obtain ⟨first, found, named⟩ := found
  have judged : penalise path (.hopFailed reporter key status) c
      = ((ApiFailure.onion (.hopFailed reporter key status)).withDecision .retry,
          (dropKey key c).2) := by
    simp only [penalise, found, named]
    rfl
  obtain ⟨guards, pool⟩ := dropKey_eq key c
  refine pays_of ?_ ?_ ?_
  · rw [judged, pool]
  · rw [judged, guards]
  · rw [judged]
    rfl

theorem pays_hopFailed_of_stranger (noHop : ∀ hop ∈ path.hops, hop.key ≠ key) :
    Pays (.hopFailed reporter key status)
      ⟨Pool.without c.store.viewPool key, Guards.afterBadPath (Pool.without c.guards key) path,
        some .retry⟩ c
      (penalise path (.hopFailed reporter key status) c) := by
  have found : path.hopWithKey? key = none :=
    List.find?_eq_none.2 fun hop isHop same => noHop hop isHop (beq_iff_eq.1 same)
  have judged : penalise path (.hopFailed reporter key status) c
      = ((ApiFailure.onion (.hopFailed reporter key status)).withDecision .retry,
          (dropPath path (dropKey key c).2).2) := by
    simp only [penalise, found]
    rfl
  obtain ⟨guards, pool⟩ := dropKey_eq key c
  refine pays_of ?_ ?_ ?_
  · rw [judged]
    exact pool
  · rw [judged]
    exact congrArg (Guards.afterBadPath · path) guards
  · rw [judged]
    rfl

end

/--
**A failed exchange costs what its answer says, and no more.**  Whatever the guard answers, if a
destination has no part in it then the answer has a cost; and reading an answer that has a cost and
judging the path makes the client pay just that.
-/
theorem penalise_pays {cipher : LayerCipher} {turn : Nat} {path : Path} {destination : Destination}
    {payload : Bytes} {onion : Onion}
    (built : Onion.build cipher turn path destination payload = .ok onion) (c : Client ω)
    (answer : Except HttpFailure HttpReply) :
    (Fails cipher onion answer →
      ∃ cost, Costs cipher onion path destination c.store.viewPool c.guards answer cost) ∧
    ∀ cost, Costs cipher onion path destination c.store.viewPool c.guards answer cost →
      ∃ cause, readAnswer cipher onion destination answer = .error cause ∧
        Pays cause cost c (penalise path cause c) := by
  have began := Onion.guardNode_of_build built
  refine ⟨fun fails => exists_costs fails path destination _ _, ?_⟩
  intro cost costs
  -- each cost is paid for the cause that the answer is read as
  cases costs with
  | noAnswer e => exact ⟨_, rfl, pays_of rfl rfl rfl⟩
  | unreadable status unreadable =>
    obtain ⟨reason, read⟩ := readReply_of_unreadable unreadable destination
    refine ⟨.badReply reason, ?_, pays_of rfl rfl rfl⟩
    rw [readAnswer, if_pos status, read]
  | @destination reply key target status blames ends same =>
    refine ⟨_, readAnswer_plain status, ?_⟩
    have isTarget : destination.node?.any (·.key == key) = true := by
      rw [ends]
      exact beq_iff_eq.2 same
    rw [classify_of_blames (began ▸ blames), if_pos isTarget]
    exact pays_of rfl rfl rfl
  | hop status blames other isHop same =>
    refine ⟨_, readAnswer_plain status, ?_⟩
    rw [classify_of_blames (began ▸ blames), if_neg (not_any_node? other)]
    exact pays_hopFailed_of_hop isHop same
  | stranger status blames other noHop =>
    refine ⟨_, readAnswer_plain status, ?_⟩
    rw [classify_of_blames (began ▸ blames), if_neg (not_any_node? other)]
    exact pays_hopFailed_of_stranger noHop
  | harmless status blames harmless =>
    refine ⟨_, readAnswer_plain status, ?_⟩
    rw [(classify_of_not_blames (began ▸ blames)).1 harmless]
    exact pays_of rfl rfl rfl
  | refused status blames harmless =>
    refine ⟨_, readAnswer_plain status, ?_⟩
    rw [(classify_of_not_blames (began ▸ blames)).2 harmless]
    exact pays_of rfl rfl rfl

/-- A node for trials with an Ed25519 key of its own. -/
def keyedNode (n : UInt8) : Node :=
  { Onion.trialNode n with keys := { (Onion.trialNode n).keys with ed25519 := toString n.toNat } }

/-- A path for trials whose hops have keys of their own. -/
def keyedPath : Path := ⟨[keyedNode 1, keyedNode 2], by decide, by decide⟩

/-- A client that knows five nodes and has two guards. -/
def keyedClient : Client Unit :=
  { Client.start .empty .zero () with
    store := (Store.fresh .empty).setPool ([1, 2, 3, 4, 5].map keyedNode)
    guards := [1, 4].map keyedNode }

/-- A hop of the path does not know the fifth node. -/
def blamesFifth : HttpReply := ⟨502, Bytes.ofString "Next node not found:  5 "⟩

theorem blames_blamesFifth :
    Blames keyedPath.guardNode blamesFifth.status (Text.Utf8.lossy blamesFifth.body) "5" := by
  have trimmed : Text.trim " 5 " = "5" := by decide +kernel
  rw [← trimmed]
  exact .unreachable (List.mem_cons_self ..) (by decide +kernel)

theorem penalise_pays_keyedClient :
    ∃ onion cause,
      Onion.build .transparent 0 keyedPath (.node (keyedNode 3)) [1, 2, 3] = .ok onion ∧
      Fails .transparent onion (.ok blamesFifth) ∧
      readAnswer .transparent onion (.node (keyedNode 3)) (.ok blamesFifth) = .error cause ∧
      Pays cause ⟨[1, 2, 3, 4].map keyedNode, [keyedNode 4], some .retry⟩ keyedClient
        (penalise keyedPath cause keyedClient) := by
  have isOk : (Onion.build .transparent 0 keyedPath (.node (keyedNode 3)) [1, 2, 3]).isOk = true := by
    decide +kernel
  cases built : Onion.build .transparent 0 keyedPath (.node (keyedNode 3)) [1, 2, 3] with
  | error e =>
    rw [built] at isOk
    cases isOk
  | ok onion =>
    obtain ⟨-, pays⟩ := penalise_pays built keyedClient (.ok blamesFifth)
    obtain ⟨cause, read, paid⟩ := pays _ (.stranger rfl blames_blamesFifth
      (fun target is => by rw [← Destination.node.inj is]; decide) (by decide))
    have pool : Pool.without keyedClient.store.viewPool "5" = [1, 2, 3, 4].map keyedNode := by
      decide +kernel
    have guards : Guards.afterBadPath (Pool.without keyedClient.guards "5") keyedPath
        = [keyedNode 4] := by
      decide +kernel
    rw [pool, guards] at paid
    exact ⟨onion, cause, rfl, .plain rfl, read, paid⟩

end Paths
end OnionSwarm

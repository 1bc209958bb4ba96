/-
With what time a push stores its revision.

A push reads the network time once and puts it into its call, signed.  The call is then repeated as
it is: a node that complains of the time makes the client look for the network time, but the time
that is found is only for calls that are made from then on.
-/
import OnionSwarm.Proofs.Client.Attempts
import OnionSwarm.Proofs.Client.Resync

namespace OnionSwarm

open Backup
open Retry (Attempt)

variable {ω α : Type}

/-! ### A complaint about the time -/

/-- Before a call is repeated after such a complaint, the time was found. -/
theorem Network.GoesTo.resynced {n : Network ω} {pass : Nat → Act ω Unit} {call : SwarmCall}
    {a : Attempt (Client ω) Json} {node : Node} {picked : Client ω} {failure : ApiFailure}
    (goes : n.GoesTo pass call a node picked) (failed : a.result = .error failure)
    (skew : NodeApi.isSkew failure = true) (again : failure.decision ≠ .fail) :
    ∃ asked, n.clock.resync asked = (true, a.left) := by
  have sends := goes.sends
  rw [SwarmApi.run_sendTo, Network.nodeApiOnce, NodeApi.run_send, failed] at sends
  cases called : n.rpc node call.call picked with
  | mk answer c =>
    rw [called] at sends
    cases answer with
    | ok reply =>
      cases read : reply.json with
      | ok v =>
        simp only [read] at sends
        cases (Prod.mk.inj sends).1
      | error e =>
        simp only [read] at sends
        obtain ⟨same, -⟩ := Prod.mk.inj sends
        obtain rfl := Except.error.inj same
        cases skew
    | error raw =>
      dsimp only at sends
      have means := NodeApi.onion?_onFailure n.clock.resync true node raw c
      -- a complaint about the time never reads as a word about the swarm
      cases member : SwarmApi.membershipBody?
          (NodeApi.onFailure n.clock.resync true node raw c).1 with
      | none =>
        rw [member] at sends
        obtain ⟨same, left⟩ := Prod.mk.inj sends
        obtain rfl := Except.error.inj same
        rw [← left]
        exact NodeApi.resync_of_isSkew ((NodeApi.isSkew_congr means).symm.trans skew) again
      | some body =>
        rw [member] at sends
        obtain ⟨same, -⟩ := Prod.mk.inj sends
        obtain rfl := Except.error.inj same
        rw [(SwarmApi.onMembership_eq _ _ _ _ _).1,
          NodeApi.isSkew_congr (ApiFailure.onion?_withDecision _ _)] at skew
        cases member.symm.trans (SwarmApi.membershipBody?_of_isSkew skew)

/-- The first complaint makes the client find the time, and is then no reason to give up. -/
theorem SwarmApi.run_sendTo_of_skew {n : Network ω} {call : SwarmCall} {node : Node}
    {c c₁ c₂ : Client ω} {failure : ApiFailure} (pass : Nat → Act ω Unit)
    (called : n.rpc node call.call c = (.error failure, c₁))
    (skew : NodeApi.isSkew failure = true) (first : c₁.notes.contains .sawSkew = false)
    (synced : n.clock.resync { c₁ with notes := c₁.notes.set .sawSkew () } = (true, c₂)) :
    (sendTo n.nodeApiOnce call node).run pass c = (.error (failure.withDecision .retry), c₂) := by
  have made : NodeApi.onFailure n.clock.resync true node failure c₁
      = (failure.withDecision .retry, c₂) := by
    rw [NodeApi.onFailure_of_isSkew _ _ _ _ skew, if_neg (Bool.eq_false_iff.1 first)]
    dsimp only
    rw [synced]
    rfl
  have complaint : NodeApi.isSkew (failure.withDecision .retry) = true :=
    (NodeApi.isSkew_congr (ApiFailure.onion?_withDecision _ _)).trans skew
  rw [run_sendTo, Network.nodeApiOnce, NodeApi.run_send, called]
  simp only [made, membershipBody?_of_isSkew complaint]

/-! ### The time in a call -/

namespace Backup

/-- The time with which a call stores: that of the first call that it holds. -/
def stamp? (call : NodeCall) : Option Nat := do
  let calls ← (call.params.get? "requests").bind Json.asArray?
  let params ← (← calls.head?).get? "params"
  (params.get? "timestamp").bind Json.asNat?

theorem stamp?_sequence (first : NodeCall) (rest : List NodeCall) :
    stamp? (Storage.sequence (first :: rest))
      = (first.params.get? "timestamp").bind Json.asNat? := by
  have requests : (Storage.sequence (first :: rest)).params.get? "requests"
      = some (.array ((first :: rest).map NodeCall.toJson)) :=
    Json.get?_ofMembers_self _ rfl
  have params : first.toJson.get? "params" = some first.params := by
    unfold NodeCall.toJson
    rw [Json.get?_ofMembers_of_ne _ _ (by decide), Json.get?_ofMembers_self _ rfl]
  rw [stamp?, requests]
  simp only [bind, Option.bind_some, Json.asArray?, List.map_cons, List.head?_cons, params]

theorem timestamp_store (who : Identity) (m : Storage.Message) (time : Nat) :
    ((Storage.store who m time).params.get? "timestamp").bind Json.asNat? = some time := by
  have timestamp : (Storage.store who m time).params.get? "timestamp" = some (.nat time) := by
    simp [Storage.store, Json.get?_ofMembers_of_ne, Json.get?_ofMembers_self]
  rw [timestamp]
  rfl

theorem stamp?_storing (who : Identity) (nspace : Int) (r : Revision) (time : Nat) :
    stamp? (storing who nspace r time) = some time := by
  unfold storing
  dsimp only
  split
  · rw [stamp?_sequence, timestamp_store]
  · rw [stamp?_sequence, timestamp_store]

/-- What an object is told of the answer to the call that stores it. -/
def settled (object : String) (r : Revision) (answer : Except ApiFailure Json) :
    Except BackupFailure Unit :=
  match answer with
  | .error e => .error (.notSent e)
  | .ok answer => (storedHash object r answer).map fun _ => ()

end Backup

/-! ### A push -/

/-- A push reads the time, and then makes a call of its own. -/
theorem ObjectBackup.run_push {b : ObjectBackup ω} {o : KeptObject ω} {c begun : Client ω}
    {r : Revision} {time : Nat} (pass : Nat → Act ω Unit) (target : Node)
    (revised : (o.revision c.outside).1 = .ok r)
    (began : b.now (Act.ofOutside o.revision c).2 = (time, begun)) :
    ((b.push target o).run pass c).1
      = settled o.name r ((Work.apart (b.api
          ⟨b.who.account, storing b.who o.nspace r time, some target⟩)).run pass begun).1 := by
  rw [Act.ofOutside_apply] at began
  unfold push
  rw [Job.run_bind, Act.bind_apply, Act.run_lift, Act.ofOutside_apply, revised]
  simp only [Job.run_bind, Act.bind_apply, Act.run_lift, began]
  cases (Work.apart (b.api
    ⟨b.who.account, storing b.who o.nspace r time, some target⟩)).run pass begun with
  | mk answer left =>
    cases answer with
    | error e => rfl
    | ok answer =>
      dsimp only [settled]
      cases storedHash o.name r answer <;> rfl

/-- **A push stores with the time at which it began, however often its call is repeated.**

Every attempt makes the same call to the target.  If the node complains of the time and the call is
repeated nevertheless, the client has found the time in between; the repeated call carries that time
only if it is still the old one. -/
theorem Network.push_repeats_time (n : Network ω) (who : Identity) (objects : List (KeptObject ω))
    {o : KeptObject ω} {c begun : Client ω} {r : Revision} {time : Nat} {pass : Nat → Act ω Unit}
    (blind : ∀ delay, (pass delay).Blind) (target : Node)
    (revised : (o.revision c.outside).1 = .ok r)
    (began : n.now (Act.ofOutside o.revision c).2 = (time, begun)) :
    let call : SwarmCall := ⟨who.account, storing who o.nspace r time, some target⟩
    let tries := n.attemptsOf pass call { begun with notes := .empty }
    (∃ a, tries.getLast? = some a ∧
      (((n.backup who objects).push target o).run pass c).1 = settled o.name r a.result) ∧
    stamp? call.call = some time ∧
    ∀ i a, tries[i]? = some a →
      n.GoesTo pass call a target a.found ∧
      (NodeApi.Complains a.result → ∀ b, tries[i + 1]? = some b →
        (∃ asked, n.clock.resync asked = (true, a.left)) ∧
        (stamp? call.call = some (n.now b.found).1 ↔ (n.now b.found).1 = time)) := by
  intro call tries
  have stamp : stamp? call.call = some time := stamp?_storing who o.nspace r time
  refine ⟨?_, stamp, ?_⟩
  · obtain ⟨a, last, same⟩ := n.run_swarmApiAlone pass call { begun with notes := .empty }
    refine ⟨a, last, ?_⟩
    rw [ObjectBackup.run_push (b := n.backup who objects) pass target revised began,
      Work.run_apart blind]
    -- a call that stores a revision shares no batch
    exact congrArg (fun s => settled o.name r s.1) same
  · intro i a this
    have unpinned (delay : Nat) : Act.Keeps Client.pin (pass delay) :=
      (blind delay).notes.part (·.get? .pinnedNode)
    have goes : n.GoesTo pass call a target a.found := goesTo_forced unpinned rfl rfl this
    refine ⟨goes, fun complains b next => ⟨?_, ?_⟩⟩
    · obtain ⟨failure, failed, skew⟩ := complains
      obtain ⟨failure', _, failed', again, _⟩ := attemptsOf_next this next
      obtain rfl := Except.error.inj (failed.symm.trans failed')
      exact goes.resynced failed skew again
    · rw [stamp, Option.some_inj]
      exact eq_comm

/-! ### A push that comes too early -/

namespace Clock

theorem estimate?_singleton (a : Answer) : estimate? [a] = some a.candidate := by
  simp [estimate?, middle?]

end Clock

/-- What a few random nodes answer that are asked for the time. -/
def ClockSource.poll (source : ClockSource ω) (pool : List Node) :
    Act ω (List (Except ApiFailure OnionReply × Delay)) := do
  let nodes ← Act.ofDice (·.sample Clock.sampleSize pool)
  nodes.mapM fun n => source.ask n .info

theorem ClockSource.sample_of_poll {source : ClockSource ω} {c c₁ : Client ω} {pool : List Node}
    {replies : List (Except ApiFailure OnionReply × Delay)}
    (ensured : source.pool.ensure c = (.ok pool, c₁)) (polled : (source.poll pool c₁).1 = replies)
    (soon : (replies.map (·.2.timer)).foldl max 0 ≤ Clock.patience) :
    (source.sample c).1 = Clock.estimate? (answers replies) := by
  rw [poll, Act.bind_apply] at polled
  unfold sample
  rw [Act.bind_apply, ensured]
  dsimp only
  rw [Act.bind_apply, Act.bind_apply, polled, if_neg (Nat.not_lt.2 soon)]
  rfl

theorem Network.now_of_reading {n : Network ω} {c : Client ω} {r : Reading}
    (known : c.reading = some r) : (n.now c).1 = r.timeAt (n.timer.instant c.outside).1 := by
  unfold now ClockSource.now
  rw [Act.bind_apply, Act.get_apply, known]
  rfl

namespace Backup

/-- A node like another one, at some port. -/
def trialTwin (port : Nat) : Node := { Onion.trialNode 1 with port }

/-- The answer of a node to the request with a number. -/
def trialReply (number : Nat) (info : Json) (body : Option Bytes) : HttpReply :=
  ⟨200, Bytes.fill 4 (1 ^^^ UInt8.ofNat (2 * number)) ++ Framing.encodeMessage info body⟩

/-- The first request comes at the wrong time, to the second one the time is the answer, and then
nobody answers.  Requests do not show what they ask. -/
def trialAnswer : Nat → HttpReply
  | 0 => trialReply 0 (.object [("code", .nat 406)]) none
  | 1 => trialReply 1 (.object [("code", .nat 200)])
      (some (Json.ofMembers [("timestamp", .nat 5000)]).toBytes)
  | _ => ⟨500, []⟩

/-- A network that answers so, and counts the requests.  The system's time is always the same. -/
def trialNetwork : Network Nat :=
  { config := { NetworkConfig.standard with pathSize := 1, guardCount := 2, minPoolSize := 3 }
    seedPost := fun _ _ number => (.error ⟨"no seed"⟩, number)
    onionPost := fun _ _ number => (.ok (trialAnswer number), number + 1)
    cipher := { LayerCipher.transparent with
      encrypt := fun turn _ key => LayerCipher.transparent.encrypt turn [] key }
    timer := ⟨fun w => (0, w), fun w => (1000, w), fun _ w => ((), w)⟩ }

/-- A client that knows three nodes, but not the time. -/
def trialPusher : Client Nat :=
  { Client.start .empty .zero 0 with
    store := (Store.fresh .empty).setPool [trialTwin 1, trialTwin 2, trialTwin 3] }

/-- Whose object it is. -/
def trialIdentity : Identity := ⟨Bytes.fill 32 7⟩

/-- The revision to be stored. -/
def trialRevision : Revision := ⟨Bytes.fill 3 1, 1, []⟩

/-- The object. -/
def trialObject : KeptObject Nat :=
  ⟨"profile", 2, fun _ => true, fun w => (.ok trialRevision, w), fun _ _ w => ((), w)⟩

/-- The call that stores it. -/
def trialCall : SwarmCall :=
  ⟨trialIdentity.account, storing trialIdentity 2 trialRevision 1000, some (trialTwin 1)⟩

theorem push_repeats_time_trialNetwork :
    (∀ delay, (trialNetwork.passing delay).Blind) ∧
    (trialObject.revision trialPusher.outside).1 = .ok trialRevision ∧
    trialNetwork.now (Act.ofOutside trialObject.revision trialPusher).2 = (1000, trialPusher) ∧
    let tries := trialNetwork.attemptsOf trialNetwork.passing trialCall
      { trialPusher with notes := .empty }
    (∃ a, tries.getLast? = some a ∧
      (((trialNetwork.backup trialIdentity [trialObject]).push (trialTwin 1) trialObject).run
        trialNetwork.passing trialPusher).1 = settled "profile" trialRevision a.result) ∧
    stamp? trialCall.call = some 1000 ∧
    ∃ a, tries[0]? = some a ∧
      trialNetwork.GoesTo trialNetwork.passing trialCall a (trialTwin 1) a.found := by
  have blind : ∀ delay, (trialNetwork.passing delay).Blind := fun _ _ _ => rfl
  have revised : (trialObject.revision trialPusher.outside).1 = .ok trialRevision := rfl
  have began : trialNetwork.now (Act.ofOutside trialObject.revision trialPusher).2
      = (1000, trialPusher) := rfl
  obtain ⟨last, stamp, goes⟩ := trialNetwork.push_repeats_time trialIdentity [trialObject] blind
    (trialTwin 1) revised began
  have first := trialNetwork.attemptsOf_head? trialNetwork.passing trialCall
    { trialPusher with notes := .empty }
  rw [List.head?_eq_getElem?] at first
  exact ⟨blind, revised, began, last, stamp, _, first, (goes 0 _ first).1⟩

/-- What came of the first request. -/
def trialComplaint : Except ApiFailure OnionReply × Client Nat :=
  trialNetwork.rpc (trialTwin 1) trialCall.call trialPusher

/-- The client that looks for the time. -/
def trialAsker : Client Nat :=
  { trialComplaint.2 with notes := trialComplaint.2.notes.set .sawSkew () }

theorem trialComplaint_spec :
    NodeApi.Complains trialComplaint.1 ∧ trialComplaint.2.notes.contains .sawSkew = false ∧
      trialComplaint.2.lastSync = none := by
  decide +kernel

theorem trialAsker_sample : (trialNetwork.clock.sample trialAsker).1 = some 5000 := by
  have large : trialNetwork.clock.pool.minPool ≤ trialAsker.store.viewPool.length := by
    decide +kernel
  have ensured : trialNetwork.clock.pool.ensure trialAsker
      = (.ok trialAsker.store.viewPool,
        { trialAsker with store := trialAsker.store.notePool }) := by
    rw [SeedSource.ensure_eq, if_pos large]
  obtain ⟨soon, answers⟩ : ((trialNetwork.clock.poll trialAsker.store.viewPool
        { trialAsker with store := trialAsker.store.notePool }).1.map (·.2.timer)).foldl max 0
          ≤ Clock.patience ∧
      ClockSource.answers (trialNetwork.clock.poll trialAsker.store.viewPool
        { trialAsker with store := trialAsker.store.notePool }).1 = [⟨5000, 0, 0⟩] := by
    decide +kernel
  rw [ClockSource.sample_of_poll ensured rfl soon, answers, Clock.estimate?_singleton]
  rfl

theorem trialAsker_resync : ∃ found, trialNetwork.clock.resync trialAsker = (true, found) ∧
    found.reading = some ⟨0, 5000⟩ := by
  have still (c : Client Nat) : trialNetwork.clock.looked c = c := rfl
  have unknown : trialAsker.lastSync = none := by
    unfold trialAsker
    dsimp only
    exact trialComplaint_spec.2.2
  rw [ClockSource.resync_eq, still, ClockSource.resyncSince_eq, still, unknown]
  have sampled := trialAsker_sample
  cases result : trialNetwork.clock.sample trialAsker with
  | mk time c =>
    rw [result] at sampled
    obtain rfl : time = some 5000 := sampled
    exact ⟨_, rfl, rfl⟩

/-- The call is repeated with the time at which it was first made, though the client has found that
it was wrong. -/
theorem retry_carries_old_time :
    (trialNetwork.now (Act.ofOutside trialObject.revision trialPusher).2).1 = 1000 ∧
    ∃ a b, (trialNetwork.attemptsOf trialNetwork.passing trialCall trialPusher)[0]? = some a ∧
      (trialNetwork.attemptsOf trialNetwork.passing trialCall trialPusher)[1]? = some b ∧
      NodeApi.Complains a.result ∧ (∃ asked, trialNetwork.clock.resync asked = (true, a.left)) ∧
      trialNetwork.GoesTo trialNetwork.passing trialCall b (trialTwin 1) b.found ∧
      stamp? trialCall.call = some 1000 ∧ (trialNetwork.now b.found).1 = 5000 := by
  obtain ⟨⟨failure, failed, skew⟩, first, -⟩ := trialComplaint_spec
  obtain ⟨found, synced, reading⟩ := trialAsker_resync
  have called : trialComplaint = (.error failure, trialComplaint.2) := by
    rw [← failed]
  have pin : trialPusher.pin = none := rfl
  have forced : trialCall.forced = some (trialTwin 1) := rfl
  have picks : (SwarmApi.target trialNetwork.swarms trialCall).run trialNetwork.passing trialPusher
      = (.ok (trialTwin 1), trialPusher) := SwarmApi.run_target_of_forced pin forced
  have sent := (SwarmApi.run_send_of_picked picks).trans
    (SwarmApi.run_sendTo_of_skew (n := trialNetwork) trialNetwork.passing called skew first synced)
  have this := trialNetwork.attemptsOf_head? trialNetwork.passing trialCall trialPusher
  rw [List.head?_eq_getElem?, Attempt.of, sent] at this
  -- the complaint asks for another attempt, which goes to the same node
  have again : (failure.withDecision .retry).decision ≠ .fail := by
    rw [ApiFailure.decision_withDecision]
    decide
  obtain ⟨b, next⟩ := Network.exists_second trialNetwork trialNetwork.passing (by decide +kernel)
    (congrArg Prod.fst sent) again
  have goes := Network.goesTo_forced (fun _ _ => rfl) rfl rfl next
  obtain ⟨_, backoff, _, _, left⟩ := Network.attemptsOf_next this next
  have known : b.found.reading = some ⟨0, 5000⟩ := by
    have kept : Act.Keeps Client.reading ((Retrying.pause backoff).run trialNetwork.passing) :=
      Retrying.keeps_pause (fun _ _ => rfl) (fun _ _ => rfl) backoff
    rw [left, kept]
    exact reading
  refine ⟨rfl, _, b, this, next, ⟨_, rfl, ?_⟩, ⟨_, synced⟩, goes, stamp?_storing _ _ _ _, ?_⟩
  · exact (NodeApi.isSkew_congr (ApiFailure.onion?_withDecision _ _)).trans skew
  · rw [Network.now_of_reading known]
    change Reading.timeAt ⟨0, 5000⟩ 0 = 5000
    decide

end Backup
end OnionSwarm

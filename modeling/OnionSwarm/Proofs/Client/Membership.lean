/-
Whose word changes a swarm.

A swarm is corrected when a call to one of its nodes fails in a way that reads as the word of that
node, namely that it does not serve the account.  The word may be the node's own, in a sealed reply,
or a plain error of the guard in its disguise.  Nothing else changes a swarm, and no plain reply
changes the clock.

What the layers on the way make of a failure is its decision and not its cause, so it is enough to
follow the cause from the guard's answer to the place where the swarm is corrected.
-/
import OnionSwarm.Client.Network
import OnionSwarm.Proofs.Client.Calls
import OnionSwarm.Proofs.Client.Paths
import OnionSwarm.Proofs.Client.Refusals

namespace OnionSwarm

open SwarmApi

variable {ω : Type}

/-! ### Where the swarm is corrected -/

namespace Swarm

/-- The swarm that is left when a node says that it does not serve the account. -/
def corrected (swarm : List Node) (n : Node) (body : Option Bytes) : List Node :=
  match ofBody body with
  | [] => without swarm n
  | nodes => nodes

theorem without_of_not_isIn {swarm : List Node} {n : Node} (out : n.isIn swarm = false) :
    without swarm n = swarm := by
  refine List.filter_eq_self.2 fun m mem => ?_
  rw [Node.isIn, List.any_eq_false] at out
  simpa using out m mem

end Swarm

namespace SwarmApi

theorem swarms_setSwarm (account : String) (nodes : List Node) (c : Client ω) :
    (Act.setSwarm account nodes c).2.swarms = Function.update c.swarms account nodes := by
  funext other
  rw [Function.update_apply]
  exact c.store.viewSwarm_setSwarm account other nodes

theorem swarms_noteSwarm (account : String) (c : Client ω) :
    { c with store := c.store.noteSwarm account }.swarms = c.swarms :=
  funext (c.store.viewSwarm_noteSwarm account)

theorem drop_spec (n : Node) (account : String) (c : Client ω) :
    (SwarmSource.drop n account c).2.clock = c.clock ∧
      (SwarmSource.drop n account c).2.swarms
        = Function.update c.swarms account (Swarm.without (c.swarms account) n) := by
  unfold SwarmSource.drop
  rw [Act.bind_apply, Act.swarm_apply]
  dsimp only
  by_cases within : n.isIn (c.store.viewSwarm account) = true
  · rw [if_pos within]
    refine ⟨rfl, ?_⟩
    rw [swarms_setSwarm, swarms_noteSwarm]
    rfl
  · rw [if_neg within]
    refine ⟨rfl, ?_⟩
    have same : Swarm.without (c.swarms account) n = c.swarms account :=
      Swarm.without_of_not_isIn (Bool.eq_false_iff.2 within)
    rw [Act.pure_apply, swarms_noteSwarm, same, Function.update_eq_self]

theorem onMembership_spec (call : SwarmCall) (n : Node) (body : Option Bytes)
    (failure : ApiFailure) (c : Client ω) :
    (onMembership call n body failure c).2.clock = c.clock ∧
      (onMembership call n body failure c).2.swarms
        = Function.update c.swarms call.account
            (Swarm.corrected (c.swarms call.account) n body) := by
  unfold onMembership SwarmSource.replaceFrom Swarm.corrected
  rw [Act.bind_apply]
  cases Swarm.ofBody body with
  | nil => exact drop_spec n call.account c
  | cons m more => exact ⟨rfl, swarms_setSwarm call.account (m :: more) c⟩

theorem membershipBody?_of_isSkew {failure : ApiFailure}
    (skew : NodeApi.isSkew failure = true) : membershipBody? failure = none := by
  unfold NodeApi.isSkew at skew
  unfold membershipBody?
  split at skew
  · rename_i means
    rw [means]
  · cases skew

theorem run_sendTo (api : NodeApi ω) (call : SwarmCall) (n : Node) (pass : Nat → Act ω Unit)
    (c : Client ω) :
    (sendTo api call n).run pass c
      = match (api n call.call).run pass c with
        | (.ok v, c) => (.ok v, c)
        | (.error failure, c) =>
          match membershipBody? failure with
          | none => (.error failure, c)
          | some body =>
            (.error (onMembership call n body failure c).1, (onMembership call n body failure c).2) := by
  unfold sendTo
  rw [Job.run_bind, Act.bind_apply]
  cases (api n call.call).run pass c with
  | mk result c =>
    cases result with
    | ok v => rfl
    | error failure =>
      dsimp only
      cases membershipBody? failure <;> rfl

/-- A call whose node is picked goes to that node. -/
theorem run_send_of_picked {source : SwarmSource ω} {api : NodeApi ω} {call : SwarmCall} {n : Node}
    {pass : Nat → Act ω Unit} {c c' : Client ω}
    (picked : (target source call).run pass c = (.ok n, c')) :
    (send source api call).run pass c = (sendTo api call n).run pass c' := by
  unfold send
  rw [Job.run_bind, Act.bind_apply, picked]

theorem run_send_of_unpicked {source : SwarmSource ω} {api : NodeApi ω} {call : SwarmCall}
    {failure : ApiFailure} {pass : Nat → Act ω Unit} {c c' : Client ω}
    (unpicked : (target source call).run pass c = (.error failure, c')) :
    (send source api call).run pass c = (.error failure, c') := by
  unfold send
  rw [Job.run_bind, Act.bind_apply, unpicked]
  rfl

variable {n : Network ω} {call : SwarmCall} {target : Node} {pass : Nat → Act ω Unit}
  {c : Client ω}

theorem swarms_sendTo_of_ok (drops : Bool) (pass : Nat → Act ω Unit) {reply : OnionReply}
    (sent : (n.rpc target call.call c).1 = .ok reply) :
    ((sendTo (NodeApi.send n.rpc n.clock.resync drops) call target).run pass c).2.swarms
      = c.swarms := by
  have standing := n.keeps_rpc target call.call c
  rw [run_sendTo, NodeApi.run_send]
  cases called : n.rpc target call.call c with
  | mk answer c₁ =>
    rw [called] at standing sent
    obtain rfl : answer = .ok reply := sent
    have swarms : c₁.swarms = c.swarms := congrArg Prod.fst standing
    cases read : reply.json with
    | ok v =>
      simp only [read]
      exact swarms
    | error e =>
      simp only [read]
      exact swarms

/-- A failure corrects the swarm of the account if it reads as the word of the node, and the clock
only if it is a complaint about the time. -/
theorem sendTo_of_error (drops : Bool) (pass : Nat → Act ω Unit) {failure : ApiFailure}
    (sent : (n.rpc target call.call c).1 = .error failure) :
    (NodeApi.isSkew failure = false →
        ((sendTo (NodeApi.send n.rpc n.clock.resync drops) call target).run pass c).2.clock
          = c.clock) ∧
      ((sendTo (NodeApi.send n.rpc n.clock.resync drops) call target).run pass c).2.swarms
        = match membershipBody? failure with
          | none => c.swarms
          | some body =>
            Function.update c.swarms call.account
              (Swarm.corrected (c.swarms call.account) target body) := by
  have standing := n.keeps_rpc target call.call c
  rw [run_sendTo, NodeApi.run_send]
  cases called : n.rpc target call.call c with
  | mk answer c₁ =>
    rw [called] at standing sent
    obtain rfl : answer = .error failure := sent
    have kept := NodeApi.keeps_onFailure n.keeps_resync drops target failure c₁
    have swarms : (NodeApi.onFailure n.clock.resync drops target failure c₁).2.swarms = c.swarms :=
      (congrArg Prod.fst kept).trans (congrArg Prod.fst standing)
    have clock (other : NodeApi.isSkew failure = false) :
        (NodeApi.onFailure n.clock.resync drops target failure c₁).2.clock = c.clock :=
      congrArg Prod.snd
        ((NodeApi.keeps_onFailure_of_not_isSkew n.clock.resync drops target other c₁).trans standing)
    dsimp only
    -- what is done about the clock leaves the failure as it reads
    rw [membershipBody?_congr (NodeApi.onion?_onFailure _ _ _ failure c₁)]
    cases membershipBody? failure with
    | none => exact ⟨clock, swarms⟩
    | some body =>
      obtain ⟨keptClock, corrected⟩ := onMembership_spec call target body
        (NodeApi.onFailure n.clock.resync drops target failure c₁).1
        (NodeApi.onFailure n.clock.resync drops target failure c₁).2
      refine ⟨fun other => keptClock.trans (clock other), ?_⟩
      dsimp only
      rw [corrected, swarms]

/-! ### Whose word it is -/

theorem asked_of_member {failure : ApiFailure}
    (comes : n.Comes target call.call c (.error failure)) {said : Option Bytes}
    (member : membershipBody? failure = some said) :
    ∃ onion answer cause, n.asked? target call.call c = some (onion, answer) ∧
      Exchange.readAnswer n.cipher onion (.node target) answer = .error cause ∧
      failure.onion? = some cause := by
  cases comes with
  | unasked _ means =>
    obtain means | ⟨reason, means⟩ := means
    · rw [membershipBody?, means] at member
      cases member
    · rw [membershipBody?, means] at member
      cases member
  | error asked read means => exact ⟨_, _, _, asked, read, means⟩

theorem isSkew_of_plain {guardNode : Node} {code : Nat} {body : Bytes} {failure : ApiFailure}
    (means : failure.onion? = some (GuardReply.classify guardNode (.node target) code body)) :
    NodeApi.isSkew failure = false := by
  rw [NodeApi.isSkew, means]
  split
  · rename_i skew
    exact absurd (Option.some.inj skew) (GuardReply.classify_ne_clockSkew _ _ _ _ _)
  · rfl

theorem swarms_sendTo_of_refuses (drops : Bool) (pass : Nat → Act ω Unit) {onion : Onion}
    {reply : HttpReply} {body : Option Bytes}
    (asked : n.asked? target call.call c = some (onion, .ok reply))
    (refuses : Refuses n.cipher onion reply body) :
    ((sendTo (NodeApi.send n.rpc n.clock.resync drops) call target).run pass c).2.swarms
      = Function.update c.swarms call.account
          (Swarm.corrected (c.swarms call.account) target body) := by
  obtain ⟨cause, read, member⟩ := Exchange.readAnswer_of_refuses refuses target
  obtain ⟨failure, sent, means⟩ := (n.comes_rpc target call.call c).of_error asked read
  rw [(sendTo_of_error drops pass sent).2, membershipBody?_of_onion? means, member]

theorem sendTo_of_plain (drops : Bool) (pass : Nat → Act ω Unit) {onion : Onion} {reply : HttpReply}
    (asked : n.asked? target call.call c = some (onion, .ok reply))
    (plain : isSuccess reply.status = false) :
    ((sendTo (NodeApi.send n.rpc n.clock.resync drops) call target).run pass c).2.clock = c.clock ∧
      ((sendTo (NodeApi.send n.rpc n.clock.resync drops) call target).run pass c).2.swarms
        = if GuardReply.isDisguised reply.status reply.body then
            Function.update c.swarms call.account (Swarm.without (c.swarms call.account) target)
          else c.swarms := by
  have read : Exchange.readAnswer n.cipher onion (.node target) (.ok reply)
      = .error (GuardReply.classify onion.guardNode (.node target) reply.status reply.body) := by
    rw [Exchange.readAnswer, if_neg (Bool.eq_false_iff.1 plain)]
  obtain ⟨failure, sent, means⟩ := (n.comes_rpc target call.call c).of_error asked read
  obtain ⟨clock, swarms⟩ := sendTo_of_error drops pass sent
  refine ⟨clock (isSkew_of_plain means), ?_⟩
  rw [swarms, membershipBody?_of_onion? means, GuardReply.membershipBody?_classify]
  cases GuardReply.isDisguised reply.status reply.body with
  | true => rfl
  | false => rfl

/-- A swarm that changes is that of the account, and somebody said that the node does not serve
it. -/
theorem sendTo_changes (drops : Bool) (pass : Nat → Act ω Unit) {account : String}
    (changed : ((sendTo (NodeApi.send n.rpc n.clock.resync drops) call target).run pass c).2.swarms
      account ≠ c.swarms account) :
    account = call.account ∧ ∃ onion answer cause said,
      n.asked? target call.call c = some (onion, answer) ∧
      Exchange.readAnswer n.cipher onion (.node target) answer = .error cause ∧
      membershipBody? (.onion cause) = some said := by
  have comes := n.comes_rpc target call.call c
  cases sent : (n.rpc target call.call c).1 with
  | ok reply =>
    rw [swarms_sendTo_of_ok drops pass sent] at changed
    exact absurd rfl changed
  | error failure =>
    have corrected := (sendTo_of_error drops pass sent).2
    cases member : membershipBody? failure with
    | none =>
      rw [member] at corrected
      rw [corrected] at changed
      exact absurd rfl changed
    | some said =>
      rw [member] at corrected
      dsimp only at corrected
      have same : account = call.account := by
        by_contra other
        rw [corrected, Function.update_of_ne other] at changed
        exact changed rfl
      obtain ⟨onion, answer, cause, asked, read, means⟩ := asked_of_member (sent ▸ comes) member
      rw [membershipBody?_of_onion? means] at member
      exact ⟨same, onion, answer, cause, said, asked, read, member⟩

/-- **Only the node's own word changes a swarm, or a plain reply in its disguise.**  Once the node
of a call is picked, a plain error reply of the guard leaves the clock alone, and all swarms as
well unless it is disguised; then the swarm of the account loses the node.  If the node itself
refuses the account in a sealed reply, the swarm of the account is corrected.  And if some swarm
changes at all, it is that of the account, and one of the two has happened. -/
theorem swarms_change_by_refusal_only (n : Network ω) (drops : Bool) {source : SwarmSource ω}
    {picking : Client ω}
    (picked : (SwarmApi.target source call).run pass picking = (.ok target, c)) :
    let after := ((send source (NodeApi.send n.rpc n.clock.resync drops) call).run pass picking).2
    (∀ onion reply, n.asked? target call.call c = some (onion, .ok reply) →
      isSuccess reply.status = false →
        after.clock = c.clock ∧
        after.swarms =
          if GuardReply.isDisguised reply.status reply.body then
            Function.update c.swarms call.account (Swarm.without (c.swarms call.account) target)
          else c.swarms) ∧
    (∀ onion reply body, n.asked? target call.call c = some (onion, .ok reply) →
      Refuses n.cipher onion reply body →
        after.swarms =
          Function.update c.swarms call.account
            (Swarm.corrected (c.swarms call.account) target body)) ∧
    ∀ account, after.swarms account ≠ c.swarms account →
      account = call.account ∧
      ∃ onion reply, n.asked? target call.call c = some (onion, .ok reply) ∧
        (isSuccess reply.status = false ∧ GuardReply.isDisguised reply.status reply.body = true ∨
          ∃ body, Refuses n.cipher onion reply body) := by
  intro after
  have form : after = ((sendTo (NodeApi.send n.rpc n.clock.resync drops) call target).run pass c).2 :=
    congrArg Prod.snd (run_send_of_picked picked)
  refine ⟨?_, ?_, ?_⟩
  · intro onion reply asked plain
    rw [form]
    exact sendTo_of_plain drops pass asked plain
  · intro onion reply body asked refuses
    rw [form]
    exact swarms_sendTo_of_refuses drops pass asked refuses
  · intro account changed
    rw [form] at changed
    obtain ⟨same, onion, answer, cause, said, asked, read, member⟩ :=
      sendTo_changes drops pass changed
    refine ⟨same, ?_⟩
    obtain ⟨reply, rfl, ⟨plain, disguised⟩ | refuses⟩ :=
      Exchange.membershipBody?_readAnswer read member
    · exact ⟨onion, reply, asked, .inl ⟨plain, disguised⟩⟩
    · exact ⟨onion, reply, asked, .inr ⟨said, refuses⟩⟩

/-! ### A reply in disguise, and a sealed one -/

/-- A network whose guards always answer the same. -/
def trialNetwork (reply : HttpReply) : Network Unit :=
  { config := { NetworkConfig.standard with pathSize := 1, guardCount := 1, minPoolSize := 4 }
    seedPost := fun _ _ w => (.error ⟨"no seed"⟩, w)
    onionPost := fun _ _ w => (.ok reply, w)
    cipher := .transparent
    timer := ⟨fun w => (0, w), fun w => (0, w), fun _ w => ((), w)⟩ }

/-- A client that knows four nodes, and a swarm of two of them. -/
def trialOwner : Client Unit :=
  { Paths.trialClient with
    store := Paths.trialClient.store.setSwarm "05aa" [Onion.trialNode 1, Onion.trialNode 2] }

/-- A call that only one of them may answer. -/
def trialCall : SwarmCall := ⟨"05aa", .info, some (Onion.trialNode 2)⟩

/-- The client after the call. -/
def trialAfter (reply : HttpReply) : Client Unit :=
  ((send (trialNetwork reply).swarms (trialNetwork reply).nodeApiOnce trialCall).run
    (fun _ => pure ()) trialOwner).2

/-- A plain reply that passes for a refusal. -/
def disguise : HttpReply := ⟨401, Bytes.ofString GuardReply.blindingRequired⟩

/-- The word of a node that does not serve the account. -/
def refusalText : Bytes := Framing.encodeMessage (.object [("code", .nat 421)]) none

/-- It is sealed with the key that the call has for it. -/
def refusal : HttpReply := ⟨200, Bytes.fill 4 2 ++ refusalText⟩

theorem asked_disguise :
    ((trialNetwork disguise).asked? (Onion.trialNode 2) trialCall.call trialOwner).map Prod.snd
      = some (.ok disguise) := by
  decide +kernel

/-- The node is lost to a reply that nobody sealed. -/
theorem disguise_changes_swarm :
    isSuccess disguise.status = false ∧
      ((trialNetwork disguise).asked? (Onion.trialNode 2) trialCall.call trialOwner).map Prod.snd
        = some (.ok disguise) ∧
      trialOwner.swarms "05aa" = [Onion.trialNode 1, Onion.trialNode 2] ∧
      (trialAfter disguise).swarms "05aa" = [Onion.trialNode 1] :=
  ⟨rfl, asked_disguise, by decide +kernel, by decide +kernel⟩

theorem asked_refusal :
    ((trialNetwork refusal).asked? (Onion.trialNode 2) trialCall.call trialOwner).map
      (fun exchange => (exchange.1.replyKey, exchange.2)) = some (Bytes.fill 32 2, .ok refusal) := by
  decide +kernel

theorem read_refusal :
    (Framing.decodeMessage refusalText).toOption.map (fun m => (Exchange.code? m.1, m.2))
      = some (some 421, none) := by
  decide +kernel

theorem swarms_change_trialNetwork :
    (∀ reply, (SwarmApi.target (trialNetwork reply).swarms trialCall).run (fun _ => pure ())
      trialOwner = (.ok (Onion.trialNode 2), trialOwner)) ∧
    (∃ onion, (trialNetwork disguise).asked? (Onion.trialNode 2) trialCall.call trialOwner
        = some (onion, .ok disguise) ∧
      isSuccess disguise.status = false ∧ (trialAfter disguise).clock = trialOwner.clock) ∧
    (∃ onion, (trialNetwork refusal).asked? (Onion.trialNode 2) trialCall.call trialOwner
        = some (onion, .ok refusal) ∧
      Refuses LayerCipher.transparent onion refusal none ∧
      (trialAfter refusal).swarms = Function.update trialOwner.swarms "05aa"
        (Swarm.corrected (trialOwner.swarms "05aa") (Onion.trialNode 2) none)) ∧
    (trialAfter refusal).swarms "05aa" ≠ trialOwner.swarms "05aa" ∧
    ∃ onion reply, (trialNetwork refusal).asked? (Onion.trialNode 2) trialCall.call trialOwner
        = some (onion, .ok reply) ∧
      (isSuccess reply.status = false ∧ GuardReply.isDisguised reply.status reply.body = true ∨
        ∃ body, Refuses LayerCipher.transparent onion reply body) := by
  have picked (reply : HttpReply) : (SwarmApi.target (trialNetwork reply).swarms trialCall).run
      (fun _ => pure ()) trialOwner = (.ok (Onion.trialNode 2), trialOwner) := rfl
  -- once for the refusal in disguise, and once for the sealed one
  obtain ⟨plain, -, -⟩ := swarms_change_by_refusal_only (trialNetwork disguise) true (picked _)
  obtain ⟨-, sealed, only⟩ := swarms_change_by_refusal_only (trialNetwork refusal) true (picked _)
  rw [← Network.nodeApiOnce, ← trialAfter] at plain sealed only
  obtain ⟨⟨disguised, answer⟩, asked, rfl⟩ := Option.map_eq_some_iff.1 asked_disguise
  obtain ⟨⟨onion, answer⟩, asked', same⟩ := Option.map_eq_some_iff.1 asked_refusal
  obtain ⟨key, rfl⟩ := Prod.mk.inj same
  have refuses : Refuses LayerCipher.transparent onion refusal none := by
    obtain ⟨message, read, same⟩ := Option.map_eq_some_iff.1 read_refusal
    obtain ⟨coded, bodiless⟩ := Prod.mk.inj same
    refine ⟨rfl, refusalText, message.1, 421, ?_, ?_, coded, by decide⟩
    · dsimp only at key
      rw [key]
      decide +kernel
    · cases decoded : Framing.decodeMessage refusalText with
      | error e =>
        rw [decoded] at read
        cases read
      | ok found =>
        rw [decoded] at read
        obtain rfl := Option.some.inj read
        rw [← bodiless]
  have corrected := sealed onion refusal none asked' refuses
  have changed : (trialAfter refusal).swarms "05aa" ≠ trialOwner.swarms "05aa" := by
    rw [corrected]
    decide +kernel
  refine ⟨picked, ⟨disguised, asked, rfl, ?_⟩, ⟨onion, asked', refuses, corrected⟩, changed, ?_⟩
  · exact (plain disguised disguise asked rfl).1
  · exact (only "05aa" changed).2

end SwarmApi
end OnionSwarm

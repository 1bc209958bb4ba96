/-
What is left when the node of a call does not serve the account.

The swarm and its round go together: whatever takes the place of the swarm, the round is forgotten
with it (`Turns.renew`), and where the swarm stays, the round goes on.  A refusal brings a list along
or it does not, and of all bodies that a node may send only those count that hold a usable entry
(`Swarm.Brings`).

The call to the node comes first, and may do many things on its way.  As none of them touches the
swarms, the rounds or the pick, what a refusal leaves can be told from what was there when the node
was picked.
-/
import OnionSwarm.Proofs.Client.Redirects
import OnionSwarm.Proofs.Client.Spread

namespace OnionSwarm

variable {ω : Type}

/-! ### The body of a refusal -/

namespace Swarm

/-- The body is JSON with a list of entries, some of them usable, which make up this list of nodes. -/
def Brings (body : Option Bytes) (nodes : List Node) : Prop :=
  ∃ bytes reply entries, body = some bytes ∧ Json.parse bytes = .ok reply ∧
    (reply.get? "snodes").bind Json.asArray? = some entries ∧
    (∃ entry ∈ entries, ∃ n, Node.entryNode? entry = some n) ∧ nodes = Node.ofEntries entries

theorem brings_iff {body : Option Bytes} {nodes : List Node} :
    Brings body nodes ↔ ofBody body = nodes ∧ nodes ≠ [] := by
  constructor
  · rintro ⟨bytes, reply, entries, rfl, parsed, listed, usable, rfl⟩
    refine ⟨?_, Node.ofEntries_ne_nil_iff.2 usable⟩
    simp [ofBody, ofReply?, parsed, listed]
  · rintro ⟨rfl, nonempty⟩
    -- whatever the body lacks, no nodes come of it
    unfold ofBody at nonempty ⊢
    cases body with
    | none => exact absurd rfl nonempty
    | some bytes =>
      dsimp only at nonempty ⊢
      cases parsed : Json.parse bytes with
      | error e =>
        rw [parsed] at nonempty
        exact absurd rfl nonempty
      | ok reply =>
        rw [parsed] at nonempty
        dsimp only at nonempty ⊢
        cases listed : (reply.get? "snodes").bind Json.asArray? with
        | none =>
          rw [ofReply?, listed] at nonempty
          exact absurd rfl nonempty
        | some entries =>
          rw [ofReply?, listed] at nonempty ⊢
          exact ⟨bytes, reply, entries, rfl, parsed, listed,
            Node.ofEntries_ne_nil_iff.1 nonempty, rfl⟩

end Swarm

/-! ### The failure -/

namespace ApiFailure

/-- The failure without the decision that was attached last. -/
def undecided : ApiFailure → ApiFailure
  | .decided cause _ => cause
  | other => other

/-- A decision takes the place of the one before it. -/
theorem withDecision_eq (f : ApiFailure) (d : Decision) :
    f.withDecision d = .decided f.undecided d := by
  cases f <;> rfl

theorem code?_of_onion? {f : ApiFailure} {cause : OnionFailure} (means : f.onion? = some cause) :
    f.code? = cause.code? := by
  unfold onion? at means
  unfold code?
  split at means
  · rename_i same
    rw [same, Option.some.inj means]
  · cases means

end ApiFailure

namespace SwarmApi

variable {failure : ApiFailure}

/-- The destination says with this status that it does not serve the account. -/
def Disowns (failure : ApiFailure) (status : Status) : Prop :=
  failure.onion? = some (.destinationRefused status) ∧ (status.code = 401 ∨ status.code = 421)

theorem membershipBody?_of_disowns {status : Status} (disowns : Disowns failure status) :
    membershipBody? failure = some status.body := by
  rw [membershipBody?_of_onion? disowns.1, membershipBody?_refused]
  exact if_pos (by simpa [membershipCodes] using disowns.2)

theorem membershipBody?_of_not_disowns (other : ∀ status, ¬ Disowns failure status) :
    membershipBody? failure = none := by
  unfold membershipBody?
  split
  · rename_i status means
    refine if_neg fun member => other status ⟨means, ?_⟩
    simpa [membershipCodes] using member
  · rfl

/-! ### The turns -/

theorem turns_onMembership (call : SwarmCall) (node : Node) (body : Option Bytes)
    (failure : ApiFailure) (c : Client ω) :
    (onMembership call node body failure c).2.turns
      = match Swarm.ofBody body with
        | [] =>
          if node.isIn (c.swarms call.account) then
            c.turns.renew call.account (Swarm.without (c.swarms call.account) node)
          else c.turns
        | nodes => c.turns.renew call.account nodes := by
  unfold onMembership SwarmSource.replaceFrom
  rw [Act.bind_apply]
  cases Swarm.ofBody body with
  | nil => exact SwarmSource.turns_drop node call.account c
  | cons m more => exact SwarmSource.turns_setSwarm call.account (m :: more) c

/-- A list that was brought along takes the place of the swarm, and the round is forgotten. -/
theorem turns_onMembership_of_brings {body : Option Bytes} {nodes : List Node}
    (brings : Swarm.Brings body nodes) (call : SwarmCall) (node : Node) (failure : ApiFailure)
    (c : Client ω) :
    (onMembership call node body failure c).2.turns = c.turns.renew call.account nodes := by
  obtain ⟨rfl, nonempty⟩ := Swarm.brings_iff.1 brings
  rw [turns_onMembership]
  cases listed : Swarm.ofBody body with
  | nil => exact absurd listed nonempty
  | cons m more => rfl

/-- Otherwise the swarm loses the node, and the round is forgotten if it had it. -/
theorem turns_onMembership_of_not_brings {body : Option Bytes}
    (bringsNone : ∀ nodes, ¬ Swarm.Brings body nodes) (call : SwarmCall) (node : Node)
    (failure : ApiFailure) (c : Client ω) :
    (onMembership call node body failure c).2.turns
      = ⟨Function.update c.swarms call.account (Swarm.without (c.swarms call.account) node),
        if node.isIn (c.swarms call.account) then c.rounds.reset call.account else c.rounds⟩ := by
  have unusable : Swarm.ofBody body = [] := by
    by_contra nonempty
    exact bringsNone _ (Swarm.brings_iff.2 ⟨rfl, nonempty⟩)
  rw [turns_onMembership, unusable]
  by_cases within : node.isIn (c.swarms call.account) = true
  · simp only [if_pos within]
    rfl
  · have same : Swarm.without (c.swarms call.account) node = c.swarms call.account :=
      Swarm.without_of_not_isIn (Bool.eq_false_iff.2 within)
    simp only [if_neg within, same, Function.update_eq_self]
    rfl

end SwarmApi

theorem Rounds.used_reset_eq (r : Rounds) (account : String) :
    (r.reset account).used = Function.update r.used account [] := by
  funext other
  rw [Function.update_apply]
  exact r.used_reset account other

/-! ### A call that fails -/

namespace SwarmApi

variable {n : Network ω} {call : SwarmCall} {pass : Nat → Act ω Unit} {c picked left : Client ω}
  {node : Node} {failure : ApiFailure}

/-- **What a failed call leaves behind.**

Whatever the call, the notes, the swarms and the rounds, and whatever others do while it waits: once
a node is picked for it, and the call to the node fails,

* if the node says that it does not serve the account, the call is bound to no node any more.  If a
  list is brought along, it is the swarm from now on, and the round is forgotten; if not, the swarm
  is what it was without the node, in the same order, and the round is forgotten exactly if the node
  was a member.  The failure is the same but for its decision, which is final for a forced node and
  else to try again, in place of one that it had.  Other accounts keep their swarms and rounds;
* after any other failure the swarms, the rounds and the pick are what they were, and the failure is
  handed on as it is. -/
theorem failure_leaves_in_order
    (picks : (target n.swarms call).run pass c = (.ok node, picked))
    (fails : (n.nodeApiOnce node call.call).run pass picked = (.error failure, left)) :
    ∃ told after, (send n.swarms n.nodeApiOnce call).run pass c = (.error told, after) ∧
      (∀ status, Disowns failure status →
        told = .decided failure.undecided (if call.forced.isSome then .fail else .retry) ∧
        told.cause = failure.cause ∧ told.code? = some status.code ∧
        told.decision = (if call.forced.isSome then .fail else .retry) ∧
        after.pin = none ∧
        (∀ nodes, Swarm.Brings status.body nodes →
          after.swarms = Function.update picked.swarms call.account nodes ∧
          after.rounds.used = Function.update picked.rounds.used call.account []) ∧
        ((∀ nodes, ¬ Swarm.Brings status.body nodes) →
          after.swarms = Function.update picked.swarms call.account
            (Swarm.without (picked.swarms call.account) node) ∧
          after.rounds.used = if node.isIn (picked.swarms call.account) then
              Function.update picked.rounds.used call.account []
            else picked.rounds.used)) ∧
      ((∀ status, ¬ Disowns failure status) →
        told = failure ∧ after.swarms = picked.swarms ∧ after.rounds = picked.rounds ∧
        after.pin = picked.pin) := by
  have kept : left.bearings = picked.bearings := by
    have kept := n.keeps_nodeApiOnce pass node call.call picked
    rwa [fails] at kept
  have swarms : left.swarms = picked.swarms := congrArg Prod.fst kept
  have rounds : left.rounds = picked.rounds := congrArg (·.2.2) kept
  have sent := run_sendTo n.nodeApiOnce call node pass picked
  rw [fails] at sent
  dsimp only at sent
  rw [run_send_of_picked picks, sent]
  -- no other failure touches the swarms, the rounds or the pick
  by_cases disowned : ∃ status, Disowns failure status
  · obtain ⟨status, disowns⟩ := disowned
    rw [membershipBody?_of_disowns disowns]
    refine ⟨_, _, rfl, ?_, fun other => absurd disowns (other status)⟩
    intro status' disowns'
    obtain rfl : status' = status := by
      simpa using disowns'.1.symm.trans disowns.1
    obtain ⟨decided, unbound⟩ := onMembership_eq call node status'.body failure left
    rw [decided]
    refine ⟨failure.withDecision_eq _, failure.cause_withDecision _, ?_,
      failure.decision_withDecision _, unbound, ?_, ?_⟩
    · exact ApiFailure.code?_of_onion? ((failure.onion?_withDecision _).trans disowns'.1)
    · intro nodes brings
      have turns := turns_onMembership_of_brings brings call node failure left
      rw [← swarms, ← rounds, ← Rounds.used_reset_eq]
      exact ⟨congrArg Turns.swarms turns, congrArg (·.rounds.used) turns⟩
    · intro bringsNone
      have turns := turns_onMembership_of_not_brings bringsNone call node failure left
      rw [← swarms, ← rounds, ← Rounds.used_reset_eq, ← apply_ite Rounds.used]
      exact ⟨congrArg Turns.swarms turns, congrArg (·.rounds.used) turns⟩
  · rw [membershipBody?_of_not_disowns fun status disowns => disowned ⟨status, disowns⟩]
    refine ⟨_, _, rfl, fun status disowns => absurd ⟨status, disowns⟩ disowned, fun _ => ?_⟩
    exact ⟨rfl, swarms, rounds, congrArg (·.2.1) kept⟩

/-- The pick for a call. -/
def trialPick : Except ApiFailure Node × Client Unit :=
  (target Network.refusingNetwork.swarms Network.freeCall).run Network.refusingNetwork.passing
    trialOwner

/-- The call to the node that was picked. -/
def trialAnswer : Except ApiFailure Json × Client Unit :=
  (Network.refusingNetwork.nodeApiOnce (Onion.trialNode 1) Network.freeCall.call).run
    Network.refusingNetwork.passing trialPick.2

/-- The onion failure behind an answer. -/
def trialCause? : Except ApiFailure Json → Option OnionFailure
  | .ok _ => none
  | .error failure => failure.onion?

theorem trialPick_spec :
    trialPick.1.toOption = some (Onion.trialNode 1) ∧
      trialPick.2.swarms "05aa" = [Onion.trialNode 1, Onion.trialNode 2] ∧
      trialCause? trialAnswer.1 = some (.destinationRefused ⟨421, none, none⟩) := by
  refine ⟨?_, ?_, ?_⟩
  · decide +kernel
  · decide +kernel
  · decide +kernel

theorem failure_leaves_in_order_freeCall :
    let n := Network.refusingNetwork
    ∃ picked failure left told after,
      (target n.swarms Network.freeCall).run n.passing trialOwner
        = (.ok (Onion.trialNode 1), picked) ∧
      (n.nodeApiOnce (Onion.trialNode 1) Network.freeCall.call).run n.passing picked
        = (.error failure, left) ∧
      (send n.swarms n.nodeApiOnce Network.freeCall).run n.passing trialOwner
        = (.error told, after) ∧
      told.decision = .retry ∧ after.pin = none ∧
      after.swarms "05aa" = [Onion.trialNode 2] ∧ after.rounds.used "05aa" = [] := by
  intro n
  obtain ⟨chosen, members, status⟩ := trialPick_spec
  -- both runs are named before they are taken apart, so that neither is evaluated again
  cases picks : trialPick with
  | mk result picked =>
    rw [picks] at chosen members
    cases answered : trialAnswer with
    | mk answer left =>
      rw [answered] at status
      rw [trialAnswer, picks] at answered
      rw [trialPick] at picks
      cases result with
      | error e => cases chosen
      | ok m =>
        obtain rfl : m = Onion.trialNode 1 := Option.some.inj chosen
        cases answer with
        | ok v => cases status
        | error failure =>
          obtain ⟨told, after, sent, disowned, -⟩ := failure_leaves_in_order picks answered
          obtain ⟨-, -, -, decided, unbound, -, evicted⟩ := disowned _ ⟨status, Or.inr rfl⟩
          obtain ⟨swarms, rounds⟩ := evicted fun nodes ⟨_, _, _, absent, _⟩ => by cases absent
          have within : (Onion.trialNode 1).isIn (picked.swarms "05aa") = true := by
            rw [members]
            decide
          refine ⟨picked, failure, left, told, after, picks, answered, sent, decided, unbound, ?_, ?_⟩
          · calc after.swarms "05aa"
              _ = Swarm.without (picked.swarms "05aa") (Onion.trialNode 1) := by
                rw [swarms]
                exact Function.update_self _ _ _
              _ = [Onion.trialNode 2] := by
                rw [members]
                decide
          · calc after.rounds.used "05aa"
              _ = Function.update picked.rounds.used "05aa" [] "05aa" := by
                rw [rounds]
                exact congrFun (if_pos within) _
              _ = [] := Function.update_self _ _ _

end SwarmApi

end OnionSwarm

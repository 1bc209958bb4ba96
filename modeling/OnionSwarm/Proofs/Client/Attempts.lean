/-
The attempts of a call to a swarm.

Each attempt picks a node, unless one was picked before or is forced, and sends the call to it.
What is decided by the node's answer is where the next attempt goes: the note of the node that was
picked stays, or it is taken away and the swarm corrected.  Nothing else on the way touches either,
neither the path, nor a search for the network time, nor the pause before the next attempt.
-/
import OnionSwarm.Proofs.Client.Membership
import OnionSwarm.Proofs.Retry.History

namespace OnionSwarm

open Retry (Attempt)

variable {ω : Type}

/-! ### Trying again -/

theorem Retrying.run_send {Request Answer : Type} (pass : Nat → Act ω Unit) (policy : RetryPolicy)
    (inner : Request → Work ω (Except ApiFailure Answer)) (request : Request) (c : Client ω) :
    (send policy inner request).run pass c
      = Retry.attempts ((inner request).run pass)
          ((pause (policyFor policy c.notes).backoff).run pass)
          (max 1 (policyFor policy c.notes).maxAttempts.toNat - 1) c := by
  unfold send
  rw [Job.run_bind, Act.bind_apply, Act.run_get, Act.get_apply]
  exact congrFun (Retry.run_attempts pass _ _ _) c

/-- A pause keeps what is neither changed while time passes nor by a throw of the dice. -/
theorem Retrying.keeps_pause {γ : Type} {view : Client ω → γ} {pass : Nat → Act ω Unit}
    (kept : ∀ delay, Act.Keeps view (pass delay))
    (dice : ∀ choose : Dice → Nat × Dice, Act.Keeps view (Act.ofDice choose)) (backoff : Backoff) :
    Act.Keeps view ((pause backoff).run pass) := by
  unfold pause
  rw [Job.run_bind, Job.run_ofAction]
  refine .bind (dice _) fun delay => ?_
  by_cases some : delay ≠ 0
  · rw [if_pos some]
    exact kept _
  · rw [if_neg some]
    exact .pure _

namespace Network

/-- Time passes, and nobody else does anything. -/
def passing (n : Network ω) (delay : Nat) : Act ω Unit := Act.ofOutside (n.timer.pass delay)

variable {n : Network ω} {pass : Nat → Act ω Unit} {call : SwarmCall} {c picked : Client ω}
  {node : Node} {a : Attempt (Client ω) Json}

/-- The attempts of a call to a swarm, while time passes in some way. -/
def attemptsOf (n : Network ω) (pass : Nat → Act ω Unit) (call : SwarmCall) (c : Client ω) :
    List (Attempt (Client ω) Json) :=
  let policy := Retrying.policyFor n.config.retry c.notes
  Retry.history ((SwarmApi.send n.swarms n.nodeApiOnce call).run pass)
    ((Retrying.pause policy.backoff).run pass) (max 1 policy.maxAttempts.toNat - 1) c

/-- A call comes to what its last attempt comes to. -/
theorem run_swarmApiAlone (n : Network ω) (pass : Nat → Act ω Unit) (call : SwarmCall)
    (c : Client ω) :
    ∃ a, (n.attemptsOf pass call c).getLast? = some a ∧
      (n.swarmApiAlone call).run pass c = (a.result, a.left) := by
  obtain ⟨a, last, same⟩ := Retry.attempts_eq_last
    ((SwarmApi.send n.swarms n.nodeApiOnce call).run pass)
    ((Retrying.pause (Retrying.policyFor n.config.retry c.notes).backoff).run pass)
    (max 1 (Retrying.policyFor n.config.retry c.notes).maxAttempts.toNat - 1) c
  exact ⟨a, last, (Retrying.run_send _ _ _ _ c).trans same⟩

theorem attemptsOf_head? (n : Network ω) (pass : Nat → Act ω Unit) (call : SwarmCall)
    (c : Client ω) :
    (n.attemptsOf pass call c).head?
      = some (.of ((SwarmApi.send n.swarms n.nodeApiOnce call).run pass) c) :=
  Retry.history_head?

/-- After a failure that is not final there is a second attempt, if the policy allows two. -/
theorem exists_second (n : Network ω) (pass : Nat → Act ω Unit) {failure : ApiFailure}
    (more : 2 ≤ (Retrying.policyFor n.config.retry c.notes).maxAttempts.toNat)
    (failed : ((SwarmApi.send n.swarms n.nodeApiOnce call).run pass c).1 = .error failure)
    (again : failure.decision ≠ .fail) : ∃ b, (n.attemptsOf pass call c)[1]? = some b := by
  unfold attemptsOf
  obtain ⟨more', same⟩ : ∃ more',
      max 1 (Retrying.policyFor n.config.retry c.notes).maxAttempts.toNat - 1 = more' + 1 :=
    ⟨_, (Nat.sub_add_cancel (by omega)).symm⟩
  dsimp only
  rw [same]
  exact ⟨_, Retry.history_second failed again⟩

/-- An attempt that is followed by another one failed, and the other one finds what a pause left. -/
theorem attemptsOf_next {i : Nat} {b : Attempt (Client ω) Json}
    (this : (n.attemptsOf pass call c)[i]? = some a)
    (next : (n.attemptsOf pass call c)[i + 1]? = some b) :
    ∃ failure backoff, a.result = .error failure ∧ failure.decision ≠ .fail ∧
      b.found = ((Retrying.pause backoff).run pass a.left).2 := by
  obtain ⟨failure, failed, again, found⟩ := Retry.history_next this next
  exact ⟨failure, _, failed, again, found⟩

/-! ### One attempt -/

/-- The attempt picks the node, and sends it the call. -/
structure GoesTo (n : Network ω) (pass : Nat → Act ω Unit) (call : SwarmCall)
    (a : Attempt (Client ω) Json) (node : Node) (picked : Client ω) : Prop where
  picks : (SwarmApi.target n.swarms call).run pass a.found = (.ok node, picked)
  sends : (SwarmApi.sendTo n.nodeApiOnce call node).run pass picked = (a.result, a.left)

theorem goesTo_of_picks (mem : a ∈ n.attemptsOf pass call c)
    (picks : (SwarmApi.target n.swarms call).run pass a.found = (.ok node, picked)) :
    n.GoesTo pass call a node picked := by
  have attempt := Retry.of_mem_history mem
  refine ⟨picks, ?_⟩
  rw [attempt]
  exact (SwarmApi.run_send_of_picked picks).symm

theorem keeps_nodeApiOnce (n : Network ω) (pass : Nat → Act ω Unit) (node : Node)
    (call : NodeCall) : Act.Keeps Client.bearings ((n.nodeApiOnce node call).run pass) := by
  intro c
  have rpc : (n.rpc node call c).2.bearings = c.bearings :=
    congrArg Prod.fst (n.keeps_affairs_rpc node call c)
  unfold nodeApiOnce
  rw [NodeApi.run_send]
  cases called : n.rpc node call c with
  | mk answer c₁ =>
    rw [called] at rpc
    cases answer with
    | ok reply => exact (Client.bearings_erase_sawSkew c₁).trans rpc
    | error failure =>
      exact (NodeApi.keeps_onFailure n.keeps_resync true node failure c₁).trans rpc

end Network

/-! ### A refusal -/

/-- The body of the refusal with which an attempt failed, if the node said in it that it does not
serve the account. -/
def Retry.Attempt.refusal? (a : Attempt (Client ω) Json) : Option (Option Bytes) :=
  match a.result with
  | .ok _ => none
  | .error failure => SwarmApi.membershipBody? failure

/-- After a refusal the call is bound to no node, and is tried again unless its node is forced. -/
theorem SwarmApi.onMembership_eq (call : SwarmCall) (n : Node) (body : Option Bytes)
    (failure : ApiFailure) (c : Client ω) :
    (onMembership call n body failure c).1
        = failure.withDecision (if call.forced.isSome then .fail else .retry) ∧
      (onMembership call n body failure c).2.pin = none := by
  unfold onMembership
  rw [Act.bind_apply]
  cases (SwarmSource.replaceFrom call.account body c).1 with
  | true => exact ⟨rfl, (Scratch.get?_erase _ _ _).trans (if_pos rfl)⟩
  | false => exact ⟨rfl, (Scratch.get?_erase _ _ _).trans (if_pos rfl)⟩

namespace Network.GoesTo

variable {n : Network ω} {pass : Nat → Act ω Unit} {call : SwarmCall}
  {a : Attempt (Client ω) Json} {node : Node} {picked : Client ω}

/-- After a refusal the call is bound to no node and the swarm is corrected; otherwise the bearings
are as they were. -/
theorem outcome (goes : n.GoesTo pass call a node picked) :
    (a.refusal? = none ∧ a.left.bearings = picked.bearings) ∨
      ∃ body failure, a.refusal? = some body ∧ a.result = .error failure ∧
        failure.decision = (if call.forced.isSome then .fail else .retry) ∧
        a.left.pin = none ∧
        a.left.swarms = Function.update picked.swarms call.account
          (Swarm.corrected (picked.swarms call.account) node body) := by
  obtain ⟨found, result, left⟩ := a
  have sends := goes.sends
  have kept := n.keeps_nodeApiOnce pass node call.call picked
  rw [SwarmApi.run_sendTo] at sends
  cases answered : (n.nodeApiOnce node call.call).run pass picked with
  | mk answer c =>
    rw [answered] at sends kept
    cases answer with
    | ok v =>
      obtain ⟨rfl, rfl⟩ := Prod.mk.inj sends
      exact .inl ⟨rfl, kept⟩
    | error failure =>
      dsimp only at sends
      -- only a failure that reads as the word of the node corrects the swarm
      cases member : SwarmApi.membershipBody? failure with
      | none =>
        rw [member] at sends
        obtain ⟨rfl, rfl⟩ := Prod.mk.inj sends
        exact .inl ⟨member, kept⟩
      | some body =>
        rw [member] at sends
        obtain ⟨rfl, rfl⟩ := Prod.mk.inj sends
        obtain ⟨decided, pin⟩ := SwarmApi.onMembership_eq call node body failure c
        have cause :
            (SwarmApi.onMembership call node body failure c).1.onion? = failure.onion? := by
          rw [decided, ApiFailure.onion?_withDecision]
        refine .inr ⟨body, _, (SwarmApi.membershipBody?_congr cause).trans member, rfl, ?_, pin, ?_⟩
        · rw [decided, ApiFailure.decision_withDecision]
        · have swarms : c.swarms = picked.swarms := congrArg Prod.fst kept
          rw [← swarms]
          exact (SwarmApi.onMembership_spec call node body failure c).2

end Network.GoesTo

/-! ### The node of an attempt -/

namespace SwarmApi

variable {source : SwarmSource ω} {pass : Nat → Act ω Unit} {call : SwarmCall} {node : Node}
  {c : Client ω}

/-- An attempt goes to the node that was picked before, or to the one that is forced, or to one that
it picks and notes. -/
theorem run_target (source : SwarmSource ω) (pass : Nat → Act ω Unit) (call : SwarmCall)
    (c : Client ω) :
    (target source call).run pass c
      = match c.pin, call.forced with
        | some n, _ => (.ok n, c)
        | none, some n => (.ok n, c)
        | none, none =>
          match (source.target call.account).run pass c with
          | (.error e, c) => (.error (.directory e), c)
          | (.ok n, c) => (.ok n, { c with notes := c.notes.set .pinnedNode n }) := by
  unfold target
  rw [Job.run_bind, Act.bind_apply, Act.run_get, Act.get_apply, ← Client.pin]
  cases c.pin with
  | some n => rfl
  | none =>
    cases call.forced with
    | some n => rfl
    | none =>
      dsimp only
      rw [Job.run_bind, Act.bind_apply]
      cases (source.target call.account).run pass c with
      | mk result c =>
        cases result with
        | error e => rfl
        | ok n => rfl

theorem run_target_of_pin (pin : c.pin = some node) :
    (target source call).run pass c = (.ok node, c) := by
  rw [run_target, pin]

theorem run_target_of_forced (pin : c.pin = none) (forced : call.forced = some node) :
    (target source call).run pass c = (.ok node, c) := by
  rw [run_target, pin, forced]

theorem run_target_of_free (pin : c.pin = none) (free : call.forced = none) :
    (target source call).run pass c
      = match (source.target call.account).run pass c with
        | (.error e, c) => (.error (.directory e), c)
        | (.ok n, c) => (.ok n, { c with notes := c.notes.set .pinnedNode n }) := by
  rw [run_target, pin, free]

/-- Only a swarm that cannot be had keeps a node from being picked. -/
theorem directory_of_run_target {failure : ApiFailure} {left : Client ω}
    (unpicked : (target source call).run pass c = (.error failure, left)) :
    ∃ e, failure = .directory e := by
  rw [run_target] at unpicked
  split at unpicked
  · cases unpicked
  · cases unpicked
  · cases found : (source.target call.account).run pass c with
    | mk result c =>
      rw [found] at unpicked
      cases result with
      | ok n => cases unpicked
      | error e => exact ⟨e, (Except.error.inj (Prod.mk.inj unpicked).1).symm⟩

end SwarmApi

/-! ### A forced node -/

namespace Network

variable {n : Network ω} {pass : Nat → Act ω Unit} {call : SwarmCall} {c : Client ω} {node : Node}
  {i : Nat} {a : Attempt (Client ω) Json}

/-- A call whose node is forced is bound to it in every attempt. -/
theorem goesTo_forced (kept : ∀ delay, Act.Keeps Client.pin (pass delay))
    (fresh : c.notes = .empty) (forced : call.forced = some node)
    (this : (n.attemptsOf pass call c)[i]? = some a) : n.GoesTo pass call a node a.found := by
  have goes {i : Nat} {a : Attempt (Client ω) Json} (this : (n.attemptsOf pass call c)[i]? = some a)
      (pin : a.found.pin = none) : n.GoesTo pass call a node a.found :=
    goesTo_of_picks (List.mem_of_getElem? this) (SwarmApi.run_target_of_forced pin forced)
  refine goes this ?_
  induction i generalizing a with
  | zero =>
    rw [← List.head?_eq_getElem?, attemptsOf_head?] at this
    obtain rfl := Option.some.inj this
    exact congrArg (·.get? .pinnedNode) fresh
  | succ i ih =>
    obtain ⟨before, last⟩ : ∃ before, (n.attemptsOf pass call c)[i]? = some before := by
      have inside := (List.getElem?_eq_some_iff.1 this).1
      exact ⟨_, List.getElem?_eq_getElem (by omega)⟩
    obtain ⟨failure, backoff, failed, again, found⟩ := attemptsOf_next last this
    have pin : a.found.pin = before.left.pin := by
      rw [found]
      exact Retrying.keeps_pause kept (fun _ _ => rfl) backoff before.left
    rw [pin]
    obtain ⟨_, same⟩ | ⟨_, failure', _, failed', decided, _⟩ := (goes last (ih last)).outcome
    · exact (congrArg (·.2.1) same).trans (ih last)
    · obtain rfl := Except.error.inj (failed.symm.trans failed')
      rw [forced] at decided
      exact absurd decided again

end Network
end OnionSwarm

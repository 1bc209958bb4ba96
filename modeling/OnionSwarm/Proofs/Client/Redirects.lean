/-
Which node each attempt of a call to a swarm goes to.

A call stays with the node that was picked for it until that node says that it does not serve the
account.  Then the pick is forgotten and the swarm corrected, so the next attempt picks from the
swarm as it is then: what is left of the old one, or the list that came with the refusal.  A call
that only one node may answer never goes elsewhere, and such a refusal ends it.
-/
import OnionSwarm.Proofs.Client.Attempts
import OnionSwarm.Proofs.Config.Valid
import OnionSwarm.Proofs.Directory.Rounds

namespace OnionSwarm

open Retry (Attempt)

variable {ω : Type}

/-! ### Picks -/

/-- A swarm that is known and large enough is not asked for. -/
theorem SwarmSource.run_target_of_large {source : SwarmSource ω} (pass : Nat → Act ω Unit)
    {c : Client ω} {account : String} (large : source.minSwarm ≤ (c.swarms account).length)
    (nonempty : c.swarms account ≠ []) :
    ∃ m picked, (source.target account).run pass c = (.ok m, picked) ∧ m ∈ c.swarms account := by
  have known : (source.get account).run pass c
      = (.ok (c.swarms account), { c with store := c.store.noteSwarm account }) := by
    unfold get
    rw [Job.run_bind, Act.bind_apply, Job.run_ofAction, Act.swarm_apply]
    dsimp only
    rw [if_pos (show source.minSwarm ≤ (c.store.viewSwarm account).length from large)]
    rfl
  obtain ⟨m, picks, mem⟩ := c.rounds.exists_select c.dice account nonempty
  refine ⟨m, (SwarmSource.pick account (c.swarms account)
    { c with store := c.store.noteSwarm account }).2, ?_, mem⟩
  unfold target
  rw [Job.run_bind, Act.bind_apply, known]
  dsimp only
  rw [Job.run_bind, Act.bind_apply, Job.run_ofAction]
  simp only [pick, picks]
  rfl

namespace SwarmApi

variable {source : SwarmSource ω} {call : SwarmCall} {pass : Nat → Act ω Unit} {c picked : Client ω}
  {node : Node}

/-- A call that is free to go anywhere notes where it goes. -/
theorem pin_of_run_target (free : call.forced = none)
    (picks : (target source call).run pass c = (.ok node, picked)) : picked.pin = some node := by
  cases pin : c.pin with
  | some m =>
    rw [run_target_of_pin pin] at picks
    obtain ⟨same, rfl⟩ := Prod.mk.inj picks
    rw [pin, Except.ok.inj same]
  | none =>
    rw [run_target_of_free pin free] at picks
    cases found : (source.target call.account).run pass c with
    | mk result c =>
      rw [found] at picks
      cases result with
      | error e => cases picks
      | ok m =>
        obtain ⟨same, rfl⟩ := Prod.mk.inj picks
        obtain rfl := Except.ok.inj same
        exact Scratch.get?_set _ _ _

/-- From a swarm that is known and large enough a member is picked. -/
theorem exists_run_target (pass : Nat → Act ω Unit) (pin : c.pin = none) (free : call.forced = none)
    (large : source.minSwarm ≤ (c.swarms call.account).length)
    (nonempty : c.swarms call.account ≠ []) :
    ∃ m picked, (target source call).run pass c = (.ok m, picked) ∧ m ∈ c.swarms call.account := by
  obtain ⟨m, picked, found, mem⟩ := SwarmSource.run_target_of_large pass large nonempty
  exact ⟨m, _, by rw [run_target_of_free pin free, found], mem⟩

end SwarmApi

theorem Swarm.same_of_mem_without {swarm : List Node} {m node : Node}
    (mem : m ∈ without swarm node) : m.same node = false := by
  have other := (List.mem_filter.1 mem).2
  simpa using other

/-- Valid settings ask for a swarm with a member. -/
theorem NetworkConfig.minSwarm_of_validate {config : NetworkConfig}
    (valid : config.validate = .ok ()) : 0 < config.minSwarmSize.toNat :=
  (validate_eq_ok_iff.1 valid).swarm

/-! ### From one attempt to the next -/

namespace Network

variable {n : Network ω} {call : SwarmCall} {c picked : Client ω} {node : Node} {i : Nat}
  {a b : Attempt (Client ω) Json}

/-- The next attempt finds the same affairs. -/
theorem affairs_next (this : (n.attemptsOf n.passing call c)[i]? = some a)
    (next : (n.attemptsOf n.passing call c)[i + 1]? = some b) :
    b.found.affairs = a.left.affairs := by
  obtain ⟨_, backoff, _, _, found⟩ := attemptsOf_next this next
  rw [found]
  exact Retrying.keeps_pause (fun _ _ => rfl) (fun _ _ => rfl) backoff a.left

/-- A call stays with its node until that refuses it. -/
theorem goesTo_of_served (free : call.forced = none)
    (this : (n.attemptsOf n.passing call c)[i]? = some a)
    (next : (n.attemptsOf n.passing call c)[i + 1]? = some b)
    (goes : n.GoesTo n.passing call a node picked) (served : a.refusal? = none) :
    n.GoesTo n.passing call b node b.found := by
  have same := affairs_next this next
  have pin : b.found.pin = some node := by
    obtain ⟨_, kept⟩ | ⟨body, _, refused, _⟩ := goes.outcome
    · calc b.found.pin
        _ = a.left.pin := congrArg (·.1.2.1) same
        _ = picked.pin := congrArg (·.2.1) kept
        _ = some node := SwarmApi.pin_of_run_target free goes.picks
    · cases served.symm.trans refused
  exact goesTo_of_picks (List.mem_of_getElem? next) (SwarmApi.run_target_of_pin pin)

/-- A call that was refused goes to a member of the corrected swarm, if that is large enough. -/
theorem goesTo_of_refused (free : call.forced = none)
    (this : (n.attemptsOf n.passing call c)[i]? = some a)
    (next : (n.attemptsOf n.passing call c)[i + 1]? = some b)
    (goes : n.GoesTo n.passing call a node picked) {body : Option Bytes}
    (refused : a.refusal? = some body) :
    a.left.swarms call.account = Swarm.corrected (picked.swarms call.account) node body ∧
      (n.swarms.minSwarm ≤ (a.left.swarms call.account).length →
        a.left.swarms call.account ≠ [] →
        ∃ m picked', n.GoesTo n.passing call b m picked' ∧ m ∈ a.left.swarms call.account) := by
  have same := affairs_next this next
  obtain ⟨served, _⟩ | ⟨body', failure, refused', _, _, pin, swarms⟩ := goes.outcome
  · cases served.symm.trans refused
  · obtain rfl := Option.some.inj (refused.symm.trans refused')
    refine ⟨by rw [swarms, Function.update_self], fun large nonempty => ?_⟩
    have pin' : b.found.pin = none := (congrArg (·.1.2.1) same).trans pin
    have swarms' : b.found.swarms = a.left.swarms := congrArg (·.1.1) same
    rw [← swarms'] at large nonempty ⊢
    obtain ⟨m, picked', picks, mem⟩ := SwarmApi.exists_run_target n.passing pin' free large
      nonempty
    exact ⟨m, picked', goesTo_of_picks (List.mem_of_getElem? next) picks, mem⟩

/-- **Which node each attempt of a call goes to.**  A call that begins without notes comes to what
its last attempt comes to, and:

* if it may go anywhere, an attempt goes to the same node as the one before it, unless that was
  refused.  After a refusal without a usable list the swarm is what it was without the node, and if
  it is still large enough the next attempt goes to a member of it, which is another node.  After a
  refusal with a usable list that is large enough, the next attempt goes to a member of the list;
* if its node is forced, every attempt goes to that node, and a refusal ends the call with a
  failure that is final.

An empty swarm has no member to go to; no valid settings take it for large enough. -/
theorem attempts_follow_refusals (n : Network ω) (call : SwarmCall) {c : Client ω}
    (fresh : c.notes = .empty) :
    (∃ a, (n.attemptsOf n.passing call c).getLast? = some a ∧
      n.await (n.swarmApiAlone call) c = (a.result, a.left)) ∧
    (call.forced = none → ∀ i a b node picked, (n.attemptsOf n.passing call c)[i]? = some a →
      (n.attemptsOf n.passing call c)[i + 1]? = some b → n.GoesTo n.passing call a node picked →
      (a.refusal? = none → n.GoesTo n.passing call b node b.found) ∧
      (∀ body, a.refusal? = some body → Swarm.ofBody body = [] →
        a.left.swarms call.account = Swarm.without (picked.swarms call.account) node ∧
        (n.swarms.minSwarm ≤ (a.left.swarms call.account).length →
          a.left.swarms call.account ≠ [] →
          ∃ m picked', n.GoesTo n.passing call b m picked' ∧ m ∈ a.left.swarms call.account ∧
            m.same node = false)) ∧
      (∀ body, a.refusal? = some body → Swarm.ofBody body ≠ [] →
        n.swarms.minSwarm ≤ (Swarm.ofBody body).length →
        ∃ m picked', n.GoesTo n.passing call b m picked' ∧ m ∈ Swarm.ofBody body)) ∧
    (∀ node, call.forced = some node → ∀ i a, (n.attemptsOf n.passing call c)[i]? = some a →
      n.GoesTo n.passing call a node a.found ∧
      (a.refusal? ≠ none → (n.attemptsOf n.passing call c).length = i + 1 ∧
        ∃ failure, a.result = .error failure ∧ failure.decision = .fail)) ∧
    (n.config.validate = .ok () → 0 < n.swarms.minSwarm) := by
  refine ⟨n.run_swarmApiAlone n.passing call c, ?_, ?_, NetworkConfig.minSwarm_of_validate⟩
  · intro free i a b node picked this next goes
    refine ⟨goesTo_of_served free this next goes, ?_, ?_⟩
    · intro body refused unusable
      obtain ⟨left, goesOn⟩ := goesTo_of_refused free this next goes refused
      have left : a.left.swarms call.account = Swarm.without (picked.swarms call.account) node := by
        rw [left, Swarm.corrected, unusable]
      refine ⟨left, fun large nonempty => ?_⟩
      obtain ⟨m, picked', goes', mem⟩ := goesOn large nonempty
      exact ⟨m, picked', goes', mem, Swarm.same_of_mem_without (left ▸ mem)⟩
    · intro body refused usable large
      obtain ⟨left, goesOn⟩ := goesTo_of_refused free this next goes refused
      have left : a.left.swarms call.account = Swarm.ofBody body := by
        rw [left, Swarm.corrected]
        split
        · exact absurd ‹_› usable
        · rfl
      rw [left] at goesOn
      exact goesOn large usable
  · intro node forced i a this
    have goes := goesTo_forced (fun _ _ => rfl) fresh forced this
    refine ⟨goes, fun refused => ?_⟩
    obtain ⟨served, _⟩ | ⟨_, failure, _, failed, decided, _⟩ := goes.outcome
    · exact absurd served refused
    · rw [forced] at decided
      refine ⟨?_, failure, failed, decided⟩
      have inside := (List.getElem?_eq_some_iff.1 this).1
      -- one more attempt would follow a failure that is not final
      by_contra more
      obtain ⟨failure', _, failed', again, _⟩ := attemptsOf_next this
        (List.getElem?_eq_getElem (by omega : i + 1 < (n.attemptsOf n.passing call c).length))
      obtain rfl := Except.error.inj (failed.symm.trans failed')
      exact again decided

/-! ### A call that is refused once -/

/-- A network whose guards always answer with a refusal of the first node, and whose swarms may
have a single member. -/
def refusingNetwork : Network Unit :=
  { SwarmApi.trialNetwork ⟨200, Bytes.fill 4 1 ++ SwarmApi.refusalText⟩ with
    config := { NetworkConfig.standard with
      pathSize := 1, guardCount := 2, minPoolSize := 4, minSwarmSize := 1 } }

/-- A call that any node of the swarm may answer. -/
def freeCall : SwarmCall := ⟨"05aa", .info, none⟩

/-- Its first attempt. -/
def firstAttempt : Attempt (Client Unit) Json :=
  .of ((SwarmApi.send refusingNetwork.swarms refusingNetwork.nodeApiOnce freeCall).run
    refusingNetwork.passing) SwarmApi.trialOwner

theorem firstAttempt_spec :
    firstAttempt.refusal? = some none ∧
      firstAttempt.left.swarms "05aa" = [Onion.trialNode 2] ∧
      ((SwarmApi.target refusingNetwork.swarms freeCall).run refusingNetwork.passing
        SwarmApi.trialOwner).1.toOption = some (Onion.trialNode 1) :=
  ⟨by decide +kernel, by decide +kernel, by decide +kernel⟩

theorem attempts_follow_refusals_refusingNetwork :
    let n := refusingNetwork
    let tries := n.attemptsOf n.passing freeCall SwarmApi.trialOwner
    SwarmApi.trialOwner.notes = .empty ∧
    ∃ b picked picked', tries[0]? = some firstAttempt ∧ tries[1]? = some b ∧
      n.GoesTo n.passing freeCall firstAttempt (Onion.trialNode 1) picked ∧
      firstAttempt.refusal? = some none ∧
      n.GoesTo n.passing freeCall b (Onion.trialNode 2) picked' := by
  intro n tries
  have fresh : SwarmApi.trialOwner.notes = .empty := rfl
  obtain ⟨-, follow, -, -⟩ := n.attempts_follow_refusals freeCall fresh
  obtain ⟨refused, left, picks⟩ := firstAttempt_spec
  have this : tries[0]? = some firstAttempt := by
    rw [← List.head?_eq_getElem?, attemptsOf_head?, firstAttempt]
  obtain ⟨picked, goes⟩ : ∃ picked,
      n.GoesTo n.passing freeCall firstAttempt (Onion.trialNode 1) picked := by
    cases target : (SwarmApi.target n.swarms freeCall).run n.passing SwarmApi.trialOwner with
    | mk result picked =>
      rw [target] at picks
      cases result with
      | error e => cases picks
      | ok m =>
        obtain rfl := Option.some.inj picks
        exact ⟨picked, goesTo_of_picks (List.mem_of_getElem? this) target⟩
  -- the refusal is not final, so there is a second attempt
  obtain ⟨b, next⟩ : ∃ b, tries[1]? = some b := by
    obtain ⟨served, _⟩ | ⟨_, failure, _, failed, decided, _⟩ := goes.outcome
    · cases refused.symm.trans served
    · rw [firstAttempt, Attempt.of] at failed
      dsimp only at failed
      have again : failure.decision ≠ .fail := by
        rw [decided]
        decide
      exact exists_second n _ (by decide +kernel) failed again
  obtain ⟨-, evicted, -⟩ := follow rfl 0 firstAttempt b (Onion.trialNode 1) picked this next goes
  obtain ⟨-, goesOn⟩ := evicted none refused rfl
  rw [show freeCall.account = "05aa" from rfl, left] at goesOn
  obtain ⟨m, picked', goes', mem, -⟩ := goesOn (by decide) (by decide)
  obtain rfl := List.mem_singleton.1 mem
  exact ⟨fresh, b, picked, picked', this, next, goes, refused, goes'⟩

end Network
end OnionSwarm

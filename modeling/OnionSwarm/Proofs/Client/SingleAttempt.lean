/-
What becomes of the mark that a call is not to be repeated.

The mark is one of the notes of a call, and it is read where a call is tried again.  A call that
goes alone gets there with the notes of its caller.  A call that may share a batch does not get
there at all: what is tried again is the combined call, which begins without notes, and so is tried
as often as the policy allows, whatever its callers have marked.
-/
import OnionSwarm.Proofs.Client.Batching
import OnionSwarm.Proofs.Client.Redirects
import OnionSwarm.Proofs.Client.Stamps

namespace OnionSwarm

open Batch Batching
open Retry (Attempt)

variable {ω : Type}

/-! ### A call alone -/

theorem Retrying.policyFor_of_marked (policy : RetryPolicy) {notes : CallNotes}
    (marked : notes.contains .singleAttempt = true) : policyFor policy notes = .once := by
  rw [policyFor, if_pos marked]

namespace Network

variable {n : Network ω} {pass : Nat → Act ω Unit} {call r : SwarmCall} {c : Client ω}

/-- With the mark there is one attempt. -/
theorem attemptsOf_of_marked (n : Network ω) (pass : Nat → Act ω Unit) (call : SwarmCall)
    (marked : c.notes.contains .singleAttempt = true) :
    n.attemptsOf pass call c
      = [.of ((SwarmApi.send n.swarms n.nodeApiOnce call).run pass) c] := by
  unfold attemptsOf
  rw [Retrying.policyFor_of_marked _ marked]
  rfl

/-- A call without a key is not held back. -/
theorem run_swarmApi_of_alone (alone : swarmKey? call = none) :
    (n.swarmApi call).run pass c = (n.swarmApiAlone call).run pass c := by
  have alone' : swarmRules.key? call = none := alone
  unfold swarmApi Batching.send
  simp only [alone']

/-! ### A call in a batch -/

/-- What a combined call finds: the batch has waited, and there are no notes. -/
def due (n : Network ω) (pass : Nat → Act ω Unit) (c : Client ω) : Client ω :=
  { (pass n.window c).2 with notes := .empty }

/-- The answers to a batch are made of what its combined call comes to. -/
theorem run_sendBatch (blind : ∀ delay, (pass delay).Blind) {b : Handed SwarmCall}
    (stands : StandsFor ω r b) (c : Client ω) :
    ∃ a, (n.attemptsOf pass r (n.due pass c)).getLast? = some a ∧
      (sendBatch swarmRules n.swarmApiAlone n.window b).run pass c
        = ((prepare swarmRules b.members).distribute swarmRules a.result,
          { a.left with notes := c.notes }) := by
  obtain ⟨a, last, same⟩ := n.run_swarmApiAlone pass r (n.due pass c)
  refine ⟨a, last, ?_⟩
  have notes : (pass n.window c).2.notes = c.notes := (blind n.window).notes c
  rw [stands.sent, Job.run_bind, Act.bind_apply, Job.run_wait, Job.run_bind, Act.bind_apply,
    Work.run_apart blind, ← due, same, notes]
  rfl

/-- Whatever the callers of a batch have noted, its combined call finds the same. -/
theorem due_congr (blind : ∀ delay, (pass delay).Blind) (c : Client ω) (notes : CallNotes) :
    n.due pass { c with notes } = n.due pass c := by
  unfold due
  rw [blind n.window c notes]

/-- A combined call is tried again after a failure that is not final, if the policy allows it. -/
theorem due_tried_again (more : 2 ≤ n.config.retry.maxAttempts.toNat) {a : Attempt (Client ω) Json}
    (first : (n.attemptsOf pass r (n.due pass c))[0]? = some a) {failure : ApiFailure}
    (failed : a.result = .error failure) (again : failure.decision ≠ .fail) :
    ∃ b, (n.attemptsOf pass r (n.due pass c))[1]? = some b := by
  rw [← List.head?_eq_getElem?, attemptsOf_head?] at first
  obtain rfl := Option.some.inj first
  exact exists_second n pass more failed again

/-- A call with a key is told what a batch of its own comes to. -/
theorem run_swarmApi_of_key {key : String} (keyed : swarmKey? call = some key) (c : Client ω) :
    ((n.swarmApi call).run pass c).1
      = (((sendBatch swarmRules n.swarmApiAlone n.window ⟨key, [⟨0, call⟩]⟩).run pass c).1.lookup
          0).getD (.error unanswered) := by
  have keyed' : swarmRules.key? call = some key := keyed
  unfold swarmApi Batching.send
  simp only [keyed', Job.run_bind, Act.bind_apply]
  rfl

theorem exists_standsFor_alone (ω : Type) (key : String) (id : Nat) (call : SwarmCall) :
    ∃ r, StandsFor ω r ⟨key, [⟨id, call⟩]⟩ :=
  exists_standsFor ω (by simp) (by simp)

/-- **A mark that a call is not to be repeated counts for calls that go alone, and for no others.**

A marked call without a key is attempted once.  A marked call in a batch makes no difference: the
combined call of the batch comes to what its last attempt comes to, its attempts are the same
whatever its callers have noted, and after a failure that is not final there is a second one, if the
policy allows two.  A call with a key that comes alone is in a batch of its own. -/
theorem mark_counts_alone (n : Network ω) {pass : Nat → Act ω Unit}
    (blind : ∀ delay, (pass delay).Blind) (call : SwarmCall) {c : Client ω}
    (marked : c.notes.contains .singleAttempt = true) :
    (swarmKey? call = none →
      ∃ a, n.attemptsOf pass call c = [a] ∧
        (n.swarmApi call).run pass c = (a.result, a.left)) ∧
    (∀ b r, (∃ m ∈ b.members, m.request = call) → StandsFor ω r b →
      (∃ a, (n.attemptsOf pass r (n.due pass c)).getLast? = some a ∧
        (sendBatch swarmRules n.swarmApiAlone n.window b).run pass c
          = ((prepare swarmRules b.members).distribute swarmRules a.result,
            { a.left with notes := c.notes })) ∧
      (∀ notes, n.attemptsOf pass r (n.due pass { c with notes })
        = n.attemptsOf pass r (n.due pass c)) ∧
      (2 ≤ n.config.retry.maxAttempts.toNat → ∀ a failure,
        (n.attemptsOf pass r (n.due pass c))[0]? = some a → a.result = .error failure →
        failure.decision ≠ .fail →
        ∃ b, (n.attemptsOf pass r (n.due pass c))[1]? = some b)) ∧
    ∀ key, swarmKey? call = some key →
      (∃ r, StandsFor ω r ⟨key, [⟨0, call⟩]⟩) ∧
      ((n.swarmApi call).run pass c).1
        = (((sendBatch swarmRules n.swarmApiAlone n.window ⟨key, [⟨0, call⟩]⟩).run pass c).1.lookup
            0).getD (.error unanswered) := by
  refine ⟨fun alone => ?_, fun b r _ stands => ⟨?_, ?_, ?_⟩, fun key keyed => ⟨?_, ?_⟩⟩
  · have single := n.attemptsOf_of_marked pass call marked
    obtain ⟨a, last, same⟩ := n.run_swarmApiAlone pass call c
    rw [single] at last
    obtain rfl := Option.some.inj last
    exact ⟨_, single, (run_swarmApi_of_alone alone).trans same⟩
  · exact run_sendBatch blind stands c
  · exact fun notes => by rw [due_congr blind]
  · exact fun more a failure first failed again => due_tried_again more first failed again
  · exact exists_standsFor_alone ω key 0 call
  · exact run_swarmApi_of_key keyed c

/-! ### A marked call that is refused -/

/-- The owner, whose calls are not to be repeated. -/
def markedOwner : Client Unit :=
  { SwarmApi.trialOwner with notes := SwarmApi.trialOwner.notes.set .singleAttempt () }

/-- A call that may share a batch. -/
def trialRetrieve : SwarmCall := trialCall "05aa" "retrieve" none

/-- The combined call of its batch. -/
def trialCombined : SwarmCall := ⟨"05aa", Storage.batch [trialRetrieve.call], none⟩

theorem standsFor_trialCombined (id : Nat) :
    StandsFor Unit trialCombined ⟨"05aa", [⟨id, trialRetrieve⟩]⟩ := by
  refine ⟨?_, rfl, rfl, fun inner window => rfl⟩
  intro m mem
  obtain rfl := List.mem_singleton.1 mem
  exact ⟨rfl, rfl⟩

/-- The first attempt of the combined call. -/
def firstCombined : Attempt (Client Unit) Json :=
  .of ((SwarmApi.send refusingNetwork.swarms refusingNetwork.nodeApiOnce trialCombined).run
    refusingNetwork.passing) (refusingNetwork.due refusingNetwork.passing markedOwner)

theorem firstCombined_spec :
    (match firstCombined.result with
      | .ok _ => none
      | .error failure => some failure.decision) = some .retry := by
  decide +kernel

theorem first_firstCombined :
    (refusingNetwork.attemptsOf refusingNetwork.passing trialCombined
      (refusingNetwork.due refusingNetwork.passing markedOwner))[0]? = some firstCombined := by
  rw [← List.head?_eq_getElem?, attemptsOf_head?, firstCombined]

theorem exists_firstCombined : ∃ failure, firstCombined.result = .error failure ∧
    failure.decision ≠ .fail := by
  have decided := firstCombined_spec
  cases result : firstCombined.result with
  | ok _ =>
    rw [result] at decided
    cases decided
  | error failure =>
    rw [result] at decided
    refine ⟨failure, rfl, ?_⟩
    rw [Option.some.inj decided]
    decide

theorem mark_counts_alone_markedOwner :
    (∀ delay, (refusingNetwork.passing delay).Blind) ∧
    markedOwner.notes.contains .singleAttempt = true ∧
    ∃ b, (refusingNetwork.attemptsOf refusingNetwork.passing trialCombined
      (refusingNetwork.due refusingNetwork.passing markedOwner))[1]? = some b := by
  have blind : ∀ delay, (refusingNetwork.passing delay).Blind := fun _ _ _ => rfl
  have marked : markedOwner.notes.contains .singleAttempt = true := rfl
  obtain ⟨-, together, -⟩ := refusingNetwork.mark_counts_alone blind trialRetrieve marked
  obtain ⟨-, -, again⟩ := together ⟨"05aa", [⟨0, trialRetrieve⟩]⟩ trialCombined
    ⟨_, List.mem_singleton_self _, rfl⟩ (standsFor_trialCombined 0)
  obtain ⟨failure, failed, more⟩ := exists_firstCombined
  exact ⟨blind, marked, again (by decide) firstCombined failure first_firstCombined failed more⟩

/-- A marked call is attempted a second time, because its batch is. -/
theorem marked_call_tried_again :
    markedOwner.notes.contains .singleAttempt = true ∧ swarmKey? trialRetrieve = some "05aa" ∧
    StandsFor Unit trialCombined ⟨"05aa", [⟨0, trialRetrieve⟩]⟩ ∧
    (∃ a, (refusingNetwork.attemptsOf refusingNetwork.passing trialCombined
        (refusingNetwork.due refusingNetwork.passing markedOwner)).getLast? = some a ∧
      ((refusingNetwork.swarmApi trialRetrieve).run refusingNetwork.passing markedOwner).1
        = (((prepare swarmRules [⟨0, trialRetrieve⟩]).distribute swarmRules a.result).lookup
            0).getD (.error unanswered)) ∧
    2 ≤ (refusingNetwork.attemptsOf refusingNetwork.passing trialCombined
      (refusingNetwork.due refusingNetwork.passing markedOwner)).length := by
  have blind : ∀ delay, (refusingNetwork.passing delay).Blind := fun _ _ _ => rfl
  have keyed : swarmKey? trialRetrieve = some "05aa" := by decide
  have stands := standsFor_trialCombined 0
  obtain ⟨a, last, sent⟩ := run_sendBatch (n := refusingNetwork) blind stands markedOwner
  obtain ⟨failure, failed, more⟩ := exists_firstCombined
  obtain ⟨b, second⟩ := due_tried_again (by decide) first_firstCombined failed more
  refine ⟨rfl, keyed, stands, ⟨a, last, ?_⟩, (List.getElem?_eq_some_iff.1 second).1⟩
  rw [run_swarmApi_of_key keyed, sent]

end Network
end OnionSwarm

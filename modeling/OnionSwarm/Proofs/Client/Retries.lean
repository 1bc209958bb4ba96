/-
A call is tried as often as its policy says.

The call is any operation at all: it may wait, and what comes of it may depend on whatever it finds.
While it or a pause waits, others may do anything but touch the notes of the call, which are its own.
-/
import OnionSwarm.Proofs.Client.Attempts
import OnionSwarm.Proofs.Retry.Tries

namespace OnionSwarm

variable {ω α Request : Type}

/-! ### Pauses -/

namespace Backoff

/-- The backoff may come to this delay. -/
def Allows (b : Backoff) (delay : Nat) : Prop :=
  match b with
  | .none => delay = 0
  | .fixed exactly => delay = exactly.toNat
  | .uniform least most =>
    if least.toNat < most.toNat then least.toNat ≤ delay ∧ delay ≤ most.toNat
    else delay = least.toNat

theorem allows_delay (b : Backoff) (d : Dice) : b.Allows (b.delay d).1 := by
  cases b with
  | none => rfl
  | fixed exactly => rfl
  | uniform least most =>
    show if _ then _ else _
    by_cases wide : least.toNat < most.toNat
    · have inside := d.roll_lt (n := most.toNat - least.toNat + 1) (by omega)
      have drawn : (Backoff.delay (.uniform least most) d).1
          = least.toNat + (d.roll (most.toNat - least.toNat + 1)).1 := by
        show (d.between least.toNat most.toNat).1 = _
        rw [Dice.between, if_pos wide]
      rw [if_pos wide, drawn]
      omega
    · have drawn : (Backoff.delay (.uniform least most) d).1 = least.toNat := by
        show (d.between least.toNat most.toNat).1 = _
        rw [Dice.between, if_neg wide]
      rw [if_neg wide, drawn]

end Backoff

namespace Retrying

/-- What a pause leaves in which just the time `waited` passes: the dice were thrown, and unless
there is nothing to wait for, that time has passed. -/
def paused (pass : Nat → Act ω Unit) (waited : Nat) (dice : Dice) (c : Client ω) : Client ω :=
  ((if waited = 0 then pure () else pass waited) { c with dice }).2

theorem run_pause (backoff : Backoff) (pass : Nat → Act ω Unit) (c : Client ω) :
    ((pause backoff).run pass c).2
      = paused pass (backoff.delay c.dice).1 (backoff.delay c.dice).2 c := by
  unfold pause paused
  rw [Job.run_bind, Act.bind_apply]
  show ((if (backoff.delay c.dice).1 ≠ 0 then Job.wait _ else pure () : Work ω Unit).run pass
    { c with dice := (backoff.delay c.dice).2 }).2 = _
  by_cases zero : (backoff.delay c.dice).1 = 0
  · rw [if_pos zero, if_neg (by simpa using zero)]
    rfl
  · rw [if_neg zero, if_pos zero]
    rfl

/-! ### Marked calls -/

/-- A marked call is made once, and any other one as the policy says. -/
theorem send_eq (policy : RetryPolicy) (inner : Request → Work ω (Except ApiFailure α))
    (request : Request) (c : Client ω) :
    send policy inner request c
      = if c.notes.contains .singleAttempt then inner request c
        else Retry.run policy (pause policy.backoff) (inner request) c := by
  have form : send policy inner request c
      = (Retry.run (policyFor policy c.notes) (pause (policyFor policy c.notes).backoff)
        (inner request) : Work ω (Except ApiFailure α)) c := rfl
  by_cases marked : c.notes.contains .singleAttempt = true
  · rw [form, policyFor, if_pos marked, if_pos marked]
    rfl
  · rw [form, policyFor, if_neg marked, if_neg marked]

/-! ### The law -/

open Retry

/-- **A call is tried until that settles it, or the policy allows no more.**

Whatever the call does, whatever others do while it waits, and however the dice fall: the call ends
with the first attempt that succeeds, or fails for good, or is the last one allowed, where one is
always allowed.  It comes to what that attempt comes to.  All that is done are the attempts up to
there, with a pause between any two.  The first attempt finds what the caller left, and each other
one the notes that the one before it left; the pause between them begins with what the attempt
left, and the time that passes in it is one that the backoff allows.

A marked call is tried once; a call that is not marked is tried in this way.  A failure asks for
another attempt exactly as `AsksAgain` says; of several decisions the one attached last counts. -/
theorem tried_as_policy_says (policy : RetryPolicy) (call : Work ω (Except ApiFailure α))
    {pass : Nat → Act ω Unit} (own : ∀ delay, Act.Keeps Client.notes (pass delay)) (c : Client ω) :
    let attempt := call.run pass
    let between := (pause policy.backoff).run pass
    let nth := tries attempt between c
    (∃ last,
      IsLeast {i | (nth i).Settles ∨ i + 1 = max 1 policy.maxAttempts.toNat} last ∧
      (Retry.run policy (pause policy.backoff) call).run pass c
        = ((nth last).result, (nth last).left) ∧
      Retry.run policy (enteringPause α between) (entering attempt) (c, [])
        = ((nth last).result, (nth last).left, course nth last)) ∧
    (nth 0).found = c ∧
    (∀ i, (nth i).result = (attempt (nth i).found).1 ∧ (nth i).left = (attempt (nth i).found).2 ∧
      (nth (i + 1)).found.notes = (nth i).left.notes ∧
      ∃ waited dice, policy.backoff.Allows waited ∧
        (nth (i + 1)).found = paused pass waited dice (nth i).left) ∧
    (∀ (Request : Type) (inner : Request → Work ω (Except ApiFailure α)) (request : Request),
      send policy inner request c
        = if c.notes.contains .singleAttempt then inner request c
          else Retry.run policy (pause policy.backoff) (inner request) c) ∧
    ∀ (f : ApiFailure) (d : Decision), (f.AsksAgain ↔ f.decision ≠ .fail) ∧
      ((f.withDecision d).AsksAgain ↔ d = .retry) := by
  intro attempt between nth
  refine ⟨?_, rfl, ?_, ?_, fun f d => ⟨ApiFailure.asksAgain_iff, ApiFailure.asksAgain_withDecision⟩⟩
  · obtain ⟨last, least, result, told⟩ :=
      exists_last attempt between (max 1 policy.maxAttempts.toNat - 1) c []
    have limit : {i | (nth i).Settles ∨ i + 1 = max 1 policy.maxAttempts.toNat}
        = {i | (nth i).Settles ∨ i = max 1 policy.maxAttempts.toNat - 1} := by
      ext i
      refine or_congr_right ?_
      omega
    refine ⟨last, by rwa [limit], ?_, told⟩
    unfold Retry.run
    rw [run_attempts]
    exact result
  · intro i
    have found : (nth (i + 1)).found = (between (nth i).left).2 := rfl
    refine ⟨by cases i <;> rfl, by cases i <;> rfl, ?_, ?_⟩
    · rw [found]
      exact keeps_pause own (fun _ _ => rfl) policy.backoff (nth i).left
    · rw [found]
      exact ⟨_, _, policy.backoff.allows_delay (nth i).left.dice, run_pause _ _ _⟩
  · exact fun _ inner request => send_eq policy inner request c

/-- A call that gets lost twice, in a world that counts attempts and keeps the times that passed. -/
def twiceLost : Work (Nat × List Nat) (Except ApiFailure Nat) := .ofAction fun c =>
  (if c.outside.1 < 2 then .error (.onion (.other "lost")) else .ok c.outside.1,
    { c with outside := (c.outside.1 + 1, c.outside.2) })

/-- Time passes, and is kept. -/
def keepTime (waited : Nat) : Act (Nat × List Nat) Unit :=
  modify fun c => { c with outside := (c.outside.1, c.outside.2 ++ [waited]) }

/-- The third attempt is good, and each of the two pauses before it took three milliseconds. -/
theorem tried_as_policy_says_twiceLost :
    let policy : RetryPolicy := ⟨5, .uniform 3 3⟩
    let c : Client (Nat × List Nat) := .start .empty .zero (0, [])
    (∀ delay, Act.Keeps Client.notes (keepTime delay)) ∧
    ((Retry.run policy (pause policy.backoff) twiceLost).run keepTime c).1 = .ok 2 ∧
    ((Retry.run policy (pause policy.backoff) twiceLost).run keepTime c).2.outside = (3, [3, 3]) ∧
    (Retry.run policy (enteringPause Nat ((pause policy.backoff).run keepTime))
      (entering (twiceLost.run keepTime)) (c, [])).2.2.length = 5 := by
  intro policy c
  have own : ∀ delay, Act.Keeps Client.notes (keepTime delay) := fun _ _ => rfl
  obtain ⟨⟨last, ⟨ends, first⟩, result, told⟩, -⟩ := tried_as_policy_says policy twiceLost own c
  have second : last ≤ 2 := first (Or.inl fun failure failed => by cases failed)
  have lost (i : Nat) (early : i < 2) :
      ¬ (tries (twiceLost.run keepTime) ((pause policy.backoff).run keepTime) c i).Settles := by
    intro settles
    obtain rfl | rfl : i = 0 ∨ i = 1 := by omega
    · exact settles _ rfl (.other "lost")
    · exact settles _ rfl (.other "lost")
  -- the budget of five is not spent, so it is the result of the third attempt that ends the call
  obtain rfl : last = 2 := by
    rcases ends with settles | spent
    · by_contra early
      exact lost last (by omega) settles
    · have five : max 1 policy.maxAttempts.toNat = 5 := rfl
      omega
  refine ⟨own, ?_, ?_, ?_⟩
  · rw [result]
    rfl
  · rw [result]
    rfl
  · rw [told]
    rfl

end Retrying
end OnionSwarm

/-
How often a call is tried.

Imagine that a call is tried again for ever (`tries`): each attempt finds what the pause after the one
before it left.  All that a policy adds is where this ends, namely with the first attempt that settles
the call, or with the last one that is allowed.

What a call comes to does not show how often it was tried.  So attempts and pauses are entered in a
diary as they are made, beside the state that they work on, and what is said is said of the diary:
it holds the first of those attempts up to the one that ends the call, with a pause between any two
(`exists_last`).
-/
import Mathlib.Order.Bounds.Defs
import OnionSwarm.Proofs.Retry.History

namespace OnionSwarm

/-! ### What is decided of a failure -/

/-- The call is to be made again.  This was attached to the failure, or nothing was and the failure is
one of the way. -/
inductive ApiFailure.AsksAgain : ApiFailure → Prop
  | attached (cause : ApiFailure) : AsksAgain (.decided cause .retry)
  | guardUnreachable (guardNode : Node) (reason : String) :
      AsksAgain (.onion (.guardUnreachable guardNode reason))
  | hopFailed (reporter : Node) (failedKey : String) (status : Status) :
      AsksAgain (.onion (.hopFailed reporter failedKey status))
  | badReply (reason : String) : AsksAgain (.onion (.badReply reason))
  | other (reason : String) : AsksAgain (.onion (.other reason))

namespace ApiFailure

theorem asksAgain_iff {f : ApiFailure} : f.AsksAgain ↔ f.decision ≠ .fail := by
  constructor
  · intro again
    cases again <;> simp [decision, attached?, onion?, cause, OnionFailure.decision]
  · intro again
    cases f with
    | decided cause decided =>
      cases decided with
      | retry => exact .attached cause
      | fail => exact absurd rfl again
    | onion cause =>
      cases cause with
      | guardUnreachable guardNode reason => exact .guardUnreachable guardNode reason
      | hopFailed reporter failedKey status => exact .hopFailed reporter failedKey status
      | badReply reason => exact .badReply reason
      | other reason => exact .other reason
      | guardRefused | destinationUnreachable | destinationRefused | clockSkew =>
        exact absurd rfl again
    | path | directory | unhandled | malformed | batch => exact absurd rfl again

/-- Of several decisions the one that was attached last counts. -/
theorem asksAgain_withDecision {f : ApiFailure} {d : Decision} :
    (f.withDecision d).AsksAgain ↔ d = .retry := by
  rw [asksAgain_iff, decision_withDecision]
  cases d <;> simp

end ApiFailure

namespace Retry

variable {σ α : Type}

/-- The call ends with the attempt, which succeeds or fails for good. -/
def Attempt.Settles (a : Attempt σ α) : Prop :=
  ∀ failure, a.result = .error failure → ¬ failure.AsksAgain

/-! ### For ever -/

/-- The attempts of a call that is tried again for ever. -/
def tries (attempt : StateM σ (Except ApiFailure α)) (pause : StateM σ Unit) (s : σ) :
    Nat → Attempt σ α
  | 0 => .of attempt s
  | i + 1 => .of attempt (pause (tries attempt pause s i).left).2

variable {attempt : StateM σ (Except ApiFailure α)} {pause : StateM σ Unit} {more : Nat} {s : σ}

/-- From the second one on, they are the attempts from what the first pause left. -/
theorem tries_succ (i : Nat) :
    tries attempt pause s (i + 1) = tries attempt pause (pause (attempt s).2).2 i := by
  induction i with
  | zero => rfl
  | succ i ih =>
    show Attempt.of attempt (pause (tries attempt pause s (i + 1)).left).2 = _
    rw [ih]
    rfl

/-! ### The end -/

theorem attempts_of_settles (settles : (Attempt.of attempt s).Settles) :
    attempts attempt pause (more + 1) s = attempt s := by
  rw [attempts_succ]
  cases result : (attempt s).1 with
  | ok value =>
    show (.ok value, (attempt s).2) = attempt s
    rw [← result]
    rfl
  | error failure =>
    have final : failure.decision = .fail := by
      by_contra again
      exact settles failure result (ApiFailure.asksAgain_iff.2 again)
    dsimp only
    rw [if_pos final, ← result]
    rfl

theorem attempts_of_not_settles (again : ¬ (Attempt.of attempt s).Settles) :
    attempts attempt pause (more + 1) s = attempts attempt pause more (pause (attempt s).2).2 := by
  obtain ⟨failure, failed, asks⟩ : ∃ failure, (Attempt.of attempt s).result = .error failure ∧
      failure.AsksAgain := by simpa [Attempt.Settles] using again
  have result : (attempt s).1 = .error failure := failed
  rw [attempts_succ, result]
  dsimp only
  rw [if_neg (ApiFailure.asksAgain_iff.1 asks)]

/-! ### The diary -/

/-- What is entered. -/
inductive Entry (σ α : Type) where
  | attempt (a : Attempt σ α)
  | pause (found left : σ)

/-- The attempt, entered in a diary. -/
def entering (attempt : StateM σ (Except ApiFailure α)) :
    StateM (σ × List (Entry σ α)) (Except ApiFailure α) :=
  fun s => ((attempt s.1).1, ((attempt s.1).2, s.2 ++ [.attempt (.of attempt s.1)]))

/-- The pause, entered in a diary. -/
def enteringPause (α : Type) (pause : StateM σ Unit) : StateM (σ × List (Entry σ α)) Unit :=
  fun s => ((), ((pause s.1).2, s.2 ++ [.pause s.1 (pause s.1).2]))

/-- A first attempt, and as many others as there are pauses. -/
def course (nth : Nat → Attempt σ α) (pauses : Nat) : List (Entry σ α) :=
  .attempt (nth 0) :: (List.range pauses).flatMap fun i =>
    [.pause (nth i).left (nth (i + 1)).found, .attempt (nth (i + 1))]

theorem course_succ (nth : Nat → Attempt σ α) (pauses : Nat) :
    course nth (pauses + 1) = .attempt (nth 0) :: .pause (nth 0).left (nth 1).found ::
      course (fun i => nth (i + 1)) pauses := by
  simp [course, List.range_succ_eq_map, List.flatMap_map]

/-- The call ends with the first attempt that settles it or is the last one allowed; what it comes to
is what that attempt comes to; and all that is done on the way are the attempts up to there, with a
pause between any two. -/
theorem exists_last (attempt : StateM σ (Except ApiFailure α)) (pause : StateM σ Unit) (more : Nat)
    (s : σ) (diary : List (Entry σ α)) :
    ∃ last, IsLeast {i | (tries attempt pause s i).Settles ∨ i = more} last ∧
      attempts attempt pause more s
        = ((tries attempt pause s last).result, (tries attempt pause s last).left) ∧
      attempts (entering attempt) (enteringPause α pause) more (s, diary)
        = ((tries attempt pause s last).result, (tries attempt pause s last).left,
          diary ++ course (tries attempt pause s) last) := by
  -- the induction is on the attempts that may still follow; what was entered before stays in front
  induction more generalizing s diary with
  | zero => exact ⟨0, ⟨Or.inr rfl, fun i _ => Nat.zero_le i⟩, rfl, rfl⟩
  | succ more ih =>
    by_cases settles : (Attempt.of attempt s).Settles
    · have entered : (Attempt.of (entering attempt) (s, diary)).Settles := settles
      rw [attempts_of_settles settles, attempts_of_settles entered]
      exact ⟨0, ⟨Or.inl settles, fun i _ => Nat.zero_le i⟩, rfl, rfl⟩
    · have entered : ¬ (Attempt.of (entering attempt) (s, diary)).Settles := settles
      rw [attempts_of_not_settles settles, attempts_of_not_settles entered]
      obtain ⟨last, ⟨ends, first⟩, result, told⟩ := ih (pause (attempt s).2).2
        (diary ++ [.attempt (.of attempt s), .pause (attempt s).2 (pause (attempt s).2).2])
      refine ⟨last + 1, ⟨?_, ?_⟩, ?_, ?_⟩
      · rcases ends with settled | spent
        · exact Or.inl (by rwa [tries_succ])
        · exact Or.inr (by rw [spent])
      · intro i ends
        cases i with
        | zero =>
          rcases ends with settled | spent
          · exact absurd settled settles
          · cases spent
        | succ i =>
          refine Nat.succ_le_succ (first ?_)
          rcases ends with settled | spent
          · exact Or.inl (by rwa [tries_succ] at settled)
          · exact Or.inr (Nat.succ.inj spent)
      · rw [tries_succ]
        exact result
      · have shifted : (fun i => tries attempt pause s (i + 1))
            = tries attempt pause (pause (attempt s).2).2 := funext tries_succ
        rw [course_succ, shifted, tries_succ]
        simpa [entering, enteringPause, tries, Attempt.of] using told

end Retry
end OnionSwarm

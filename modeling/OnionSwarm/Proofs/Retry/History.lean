/-
The attempts of a call, one after another.

A call that is tried again comes to what its last attempt comes to.  The history of a call is the
list of all its attempts, each with the state that it found; an attempt is followed by another one
only after a failure that is not final, and the next one finds what the pause left.
-/
import Mathlib.Tactic.Common
import OnionSwarm.Job
import OnionSwarm.Retry.Run

namespace OnionSwarm.Retry

variable {σ α : Type}

/-- One attempt of a call. -/
structure Attempt (σ α : Type) where
  /-- The state that it found. -/
  found : σ
  /-- What came of it. -/
  result : Except ApiFailure α
  /-- The state that it left. -/
  left : σ

/-- The attempt that finds a state. -/
def Attempt.of (attempt : StateM σ (Except ApiFailure α)) (s : σ) : Attempt σ α :=
  ⟨s, (attempt s).1, (attempt s).2⟩

/-- All attempts of a call, up to `more` after the first. -/
def history (attempt : StateM σ (Except ApiFailure α)) (pause : StateM σ Unit) :
    (more : Nat) → σ → List (Attempt σ α)
  | 0, s => [.of attempt s]
  | more + 1, s =>
    .of attempt s ::
      match (attempt s).1 with
      | .ok _ => []
      | .error failure =>
        if failure.decision = .fail then []
        else history attempt pause more (pause (attempt s).2).2

/-- A call made as a job is tried again as it is when the job is done at once. -/
theorem run_attempts (pass : Nat → StateM σ Unit) (attempt : Job σ (Except ApiFailure α))
    (pause : Job σ Unit) (more : Nat) :
    (attempts attempt pause more).run pass
      = attempts (attempt.run pass) (pause.run pass) more := by
  induction more with
  | zero => rfl
  | succ more ih =>
    rw [attempts, attempts, Job.run_bind]
    refine congrArg _ (funext fun result => ?_)
    cases result with
    | ok value => rfl
    | error failure =>
      dsimp only
      split
      · rfl
      · rw [Job.run_bind, ih]

variable {attempt : StateM σ (Except ApiFailure α)} {pause : StateM σ Unit} {more : Nat} {s : σ}

theorem history_head? : (history attempt pause more s).head? = some (.of attempt s) := by
  cases more <;> rfl

theorem attempts_succ :
    attempts attempt pause (more + 1) s
      = match (attempt s).1 with
        | .ok value => (.ok value, (attempt s).2)
        | .error failure =>
          if failure.decision = .fail then (.error failure, (attempt s).2)
          else attempts attempt pause more (pause (attempt s).2).2 := by
  rw [attempts]
  change (match (attempt s).1 with
    | .ok value => pure (.ok value)
    | .error failure =>
      if failure.decision = .fail then pure (.error failure)
      else do
        pause
        attempts attempt pause more : StateM σ (Except ApiFailure α)) (attempt s).2 = _
  cases (attempt s).1 with
  | ok value => rfl
  | error failure =>
    dsimp only
    split
    · rfl
    · rfl

/-- After a failure that is not final there is a second attempt. -/
theorem history_second {failure : ApiFailure} (failed : (attempt s).1 = .error failure)
    (again : failure.decision ≠ .fail) :
    (history attempt pause (more + 1) s)[1]?
      = some (.of attempt (pause (attempt s).2).2) := by
  rw [history, failed]
  simp only [if_neg again]
  rw [List.getElem?_cons_succ, ← List.head?_eq_getElem?, history_head?]

/-- A call comes to what its last attempt comes to. -/
theorem attempts_eq_last (attempt : StateM σ (Except ApiFailure α)) (pause : StateM σ Unit)
    (more : Nat) (s : σ) :
    ∃ a, (history attempt pause more s).getLast? = some a ∧
      attempts attempt pause more s = (a.result, a.left) := by
  induction more generalizing s with
  | zero => exact ⟨_, rfl, rfl⟩
  | succ more ih =>
    rw [attempts_succ, history, List.getLast?_cons]
    cases result : (attempt s).1 with
    | ok value => exact ⟨.of attempt s, rfl, by rw [Attempt.of, result]⟩
    | error failure =>
      dsimp only
      by_cases final : failure.decision = .fail
      · rw [if_pos final, if_pos final]
        exact ⟨.of attempt s, rfl, by rw [Attempt.of, result]⟩
      · rw [if_neg final, if_neg final]
        obtain ⟨a, last, same⟩ := ih (pause (attempt s).2).2
        exact ⟨a, by rw [last]; rfl, same⟩

theorem of_mem_history {a : Attempt σ α} (mem : a ∈ history attempt pause more s) :
    a = .of attempt a.found := by
  induction more generalizing s with
  | zero =>
    rw [List.mem_singleton.1 mem]
    rfl
  | succ more ih =>
    rw [history, List.mem_cons] at mem
    obtain rfl | later := mem
    · rfl
    · split at later
      · cases later
      · split at later
        · cases later
        · exact ih later

/-- An attempt is followed by another one only after a failure that is not final. -/
theorem history_next {i : Nat} {a b : Attempt σ α}
    (this : (history attempt pause more s)[i]? = some a)
    (next : (history attempt pause more s)[i + 1]? = some b) :
    ∃ failure, a.result = .error failure ∧ failure.decision ≠ .fail ∧
      b.found = (pause a.left).2 := by
  induction more generalizing s i with
  | zero => cases i <;> cases next
  | succ more ih =>
    rw [history] at this next
    rw [List.getElem?_cons_succ] at next
    split at next
    · cases next
    · rename_i failure failed
      split at next
      · cases next
      · rename_i again
        simp only [failed, if_neg again] at this
        cases i with
        | zero =>
          obtain rfl := Option.some.inj this
          refine ⟨failure, failed, again, ?_⟩
          rw [← List.head?_eq_getElem?, history_head?] at next
          obtain rfl := Option.some.inj next
          rfl
        | succ i => exact ih this next

end OnionSwarm.Retry

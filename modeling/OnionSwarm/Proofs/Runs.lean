/-
Runs of machines whose steps may be impossible.

A run makes one step after another, and leads nowhere if one of them cannot be made.  What every step
keeps, a run keeps; and a run is a run up to any of its moves, the move, and a run from there.  Both
are true of all machines, so they are told here once.
-/
import Mathlib.Tactic.Common

namespace OnionSwarm.Runs

variable {σ μ : Type} {step : σ → μ → Option σ} {s s' : σ} {moves : List μ}

/-- What every step keeps is kept by the run. -/
theorem keeps {P : σ → Prop} (ran : moves.foldlM step s = some s')
    (kept : ∀ {u v m}, m ∈ moves → step u m = some v → P u → P v) (holds : P s) : P s' := by
  induction moves generalizing s with
  | nil =>
    obtain rfl := Option.some.inj ran
    exact holds
  | cons m rest ih =>
    rw [List.foldlM_cons] at ran
    obtain ⟨between, moved, ran⟩ := Option.bind_eq_some_iff.1 ran
    have next := kept List.mem_cons_self moved holds
    exact ih ran (fun mem => kept (List.mem_cons_of_mem _ mem)) next

/-- A run up to a move, the move, and the run after it. -/
theorem split {before after : List μ} {m : μ}
    (ran : (before ++ m :: after).foldlM step s = some s') :
    ∃ u v, before.foldlM step s = some u ∧ step u m = some v ∧ after.foldlM step v = some s' := by
  rw [List.foldlM_append] at ran
  obtain ⟨u, ranBefore, ran⟩ := Option.bind_eq_some_iff.1 ran
  rw [List.foldlM_cons] at ran
  obtain ⟨v, moved, ranAfter⟩ := Option.bind_eq_some_iff.1 ran
  exact ⟨u, v, ranBefore, moved, ranAfter⟩

end OnionSwarm.Runs

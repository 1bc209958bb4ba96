/-
Work that may have to wait.

A job changes a state, as an action does, but now and then it waits, and while it waits others may
change the state.  So a job is what it does up to its first pause, and for each state that it may
find after the pause, what it does then.  A job that never waits is an action.

Jobs can be done side by side.  Time is the only thing that decides who goes on: the one whose pause
ends first, and of several whose pauses end at the same time the one that stands first.
-/

namespace OnionSwarm

/-- How far a job has come. -/
inductive Progress (σ α : Type) where
  /-- It is done, and leaves a state. -/
  | done (a : α) (s : σ)
  /-- It waits for some time, leaves a state meanwhile, and goes on with the one that it finds. -/
  | waits (delay : Nat) (s : σ) (rest : σ → Progress σ α)

/-- Work on a state that may have to wait. -/
def Job (σ α : Type) := σ → Progress σ α

variable {σ α β γ : Type}

namespace Progress

/-- Goes on with another job. -/
def andThen (next : α → Job σ β) : Progress σ α → Progress σ β
  | done a s => next a s
  | waits delay s rest => waits delay s fun s => (rest s).andThen next

/-- The state as it is now. -/
def state : Progress σ α → σ
  | done _ s => s
  | waits _ s _ => s

/-- How long it still waits. -/
def delay : Progress σ α → Nat
  | done _ _ => 0
  | waits delay _ _ => delay

/-- The end of the work, if time passes in some way. -/
def run (pass : Nat → StateM σ Unit) : Progress σ α → α × σ
  | done a s => (a, s)
  | waits delay s rest => (rest (pass delay s).2).run pass

/-- A job on the right that goes on alone. -/
def onlyRight (a : α) : Progress σ β → (rightWaits : Nat) → σ → Progress σ (α × β)
  | done b _, _, now => done (a, b) now
  | waits _ _ rest, rightWaits, now =>
    waits rightWaits now fun s => (rest s).andThen fun b => done (a, b)

/-- A job on the left waits for some time more, and goes on as `resume` says; meanwhile the one on
the right may go on several times. -/
def beforeLeft (resume : σ → Progress σ β → Nat → Progress σ γ) (leftWaits : Nat) :
    Progress σ β → (rightWaits : Nat) → σ → Progress σ γ
  | done b s, _, now => waits leftWaits now fun now => resume now (done b s) 0
  | waits delay s rest, rightWaits, now =>
    if leftWaits ≤ rightWaits then
      waits leftWaits now fun now => resume now (waits delay s rest) (rightWaits - leftWaits)
    else
      waits rightWaits now fun now =>
        let right := rest now
        beforeLeft resume (leftWaits - rightWaits) right right.delay right.state

/-- Two jobs side by side, each of which waits for some time more. -/
def beside : Progress σ α → (leftWaits : Nat) → Progress σ β → (rightWaits : Nat) → σ →
    Progress σ (α × β)
  | done a _, _, right, rightWaits, now => right.onlyRight a rightWaits now
  | waits _ _ rest, leftWaits, right, rightWaits, now =>
    beforeLeft
      (fun now right rightWaits =>
        let left := rest now
        left.beside left.delay right rightWaits left.state)
      leftWaits right rightWaits now

end Progress

namespace Job

instance : Monad (Job σ) where
  pure a := fun s => .done a s
  bind job next := fun s => (job s).andThen next

/-- An action, which never waits. -/
def ofAction (act : StateM σ α) : Job σ α := fun s => .done (act s).1 (act s).2

instance : MonadLift (StateM σ) (Job σ) := ⟨ofAction⟩

/-- Waits for some time. -/
def wait (delay : Nat) : Job σ Unit := fun s => .waits delay s fun s => .done () s

/-- Does a job to its end, while time passes in some way. -/
def run (pass : Nat → StateM σ Unit) (job : Job σ α) : StateM σ α := fun s => (job s).run pass

/-- Does two jobs side by side. -/
def beside (left : Job σ α) (right : Job σ β) : Job σ (α × β) := fun s =>
  let left := left s
  let right := right left.state
  left.beside left.delay right right.delay right.state

/-- Does several jobs side by side. -/
def together : List (Job σ α) → Job σ (List α)
  | [] => pure []
  | job :: rest => do
    let (a, more) ← job.beside (together rest)
    return a :: more

/-! ### Time passes -/

theorem run_andThen (pass : Nat → StateM σ Unit) (next : α → Job σ β) (p : Progress σ α) :
    (p.andThen next).run pass = (next (p.run pass).1).run pass (p.run pass).2 := by
  induction p with
  | done a s => rfl
  | waits delay s rest ih => exact ih _

@[simp] theorem run_pure (pass : Nat → StateM σ Unit) (a : α) :
    (pure a : Job σ α).run pass = pure a := rfl

@[simp] theorem run_bind (pass : Nat → StateM σ Unit) (job : Job σ α) (next : α → Job σ β) :
    (job >>= next).run pass = job.run pass >>= fun a => (next a).run pass :=
  funext fun s => run_andThen pass next (job s)

@[simp] theorem run_ofAction (pass : Nat → StateM σ Unit) (act : StateM σ α) :
    (ofAction act).run pass = act := rfl

@[simp] theorem run_wait (pass : Nat → StateM σ Unit) (delay : Nat) :
    (wait delay).run pass = pass delay := rfl

end Job
end OnionSwarm

/-
What a job answers and what it keeps, whatever others do while it waits.

After a pause a job goes on with any state that it may find, so a fact about its answer that holds
over all of them holds however the job is mixed with others.  Such a fact goes through every way of
putting jobs together: one after another, apart, and side by side.  For jobs side by side nothing
has to be known about the order in which they go on.

A property of the state is kept by all jobs together if each keeps it on its own, from every state
that has it and at each of its pauses.
-/
import Mathlib.Tactic.Common
import OnionSwarm.Client.State

namespace OnionSwarm

variable {σ ω α β γ : Type} {p : α → Prop} {q : β → Prop} {r : γ → Prop}

namespace Progress

/-- Whatever the work finds after its pauses, its answer has the property. -/
def Yields (p : α → Prop) : Progress σ α → Prop
  | .done a _ => p a
  | .waits _ _ rest => ∀ s, (rest s).Yields p

theorem Yields.mono {work : Progress σ α} (yields : work.Yields p) {p' : α → Prop}
    (weaker : ∀ a, p a → p' a) : work.Yields p' := by
  induction work with
  | done a s => exact weaker a yields
  | waits delay s rest ih => exact fun now => ih now (yields now)

theorem Yields.run {work : Progress σ α} (yields : work.Yields p) (pass : Nat → StateM σ Unit) :
    p (work.run pass).1 := by
  induction work with
  | done a s => exact yields
  | waits delay s rest ih => exact ih _ (yields _)

theorem Yields.andThen {work : Progress σ α} {next : α → Job σ β} (yields : work.Yields p)
    (each : ∀ a, p a → ∀ s, (next a s).Yields q) : (work.andThen next).Yields q := by
  induction work with
  | done a s => exact each a yields s
  | waits delay s rest ih => exact fun now => ih now (yields now)

/-! ### Side by side -/

theorem Yields.onlyRight {right : Progress σ β} (yields : right.Yields q) (a : α)
    (rightWaits : Nat) (now : σ) :
    (right.onlyRight a rightWaits now).Yields fun both => both.1 = a ∧ q both.2 := by
  cases right with
  | done b s => exact ⟨rfl, yields⟩
  | waits delay s rest => exact fun now => (yields now).andThen fun b holds _ => ⟨rfl, holds⟩

/-- What goes on before the job on the left does leaves the other job's answer as it is. -/
theorem Yields.beforeLeft {right : Progress σ β} (yields : right.Yields q)
    {resume : σ → Progress σ β → Nat → Progress σ γ}
    (resumed : ∀ now right rightWaits, Yields q right → (resume now right rightWaits).Yields r)
    (leftWaits rightWaits : Nat) (now : σ) :
    (right.beforeLeft resume leftWaits rightWaits now).Yields r := by
  induction right generalizing leftWaits rightWaits now with
  | done b s => exact fun now => resumed now (.done b s) 0 yields
  | waits delay s rest ih =>
    rw [Progress.beforeLeft]
    split
    · exact fun now => resumed now (.waits delay s rest) _ yields
    · exact fun now => ih now (yields now) _ _ _

theorem Yields.beside {left : Progress σ α} {right : Progress σ β} (yields : left.Yields p)
    (yields' : right.Yields q) (leftWaits rightWaits : Nat) (now : σ) :
    (left.beside leftWaits right rightWaits now).Yields fun both => p both.1 ∧ q both.2 := by
  induction left generalizing right leftWaits rightWaits now with
  | done a s =>
    refine (yields'.onlyRight a rightWaits now).mono ?_
    rintro ⟨a', b⟩ ⟨rfl, holds⟩
    exact ⟨yields, holds⟩
  | waits delay s rest ih =>
    refine yields'.beforeLeft ?_ leftWaits rightWaits now
    intro now right rightWaits yields'
    exact ih now (yields now) yields' _ _ _

end Progress

namespace Job

/-- Whatever the job finds at first and after its pauses, its answer has the property. -/
def Yields (p : α → Prop) (job : Job σ α) : Prop := ∀ s, (job s).Yields p

variable {job : Job σ α}

theorem Yields.mono (yields : job.Yields p) {p' : α → Prop} (weaker : ∀ a, p a → p' a) :
    job.Yields p' := fun s => (yields s).mono weaker

/-- However time passes, the job ends with such an answer. -/
theorem Yields.run (yields : job.Yields p) (pass : Nat → StateM σ Unit) (s : σ) :
    p (job.run pass s).1 := Progress.Yields.run (yields s) pass

theorem yields_pure {a : α} (holds : p a) : (pure a : Job σ α).Yields p := fun _ => holds

theorem Yields.bind {next : α → Job σ β} (yields : job.Yields p)
    (each : ∀ a, p a → (next a).Yields q) : (job >>= next).Yields q :=
  fun s => (yields s).andThen fun a holds => each a holds

theorem yields_wait (delay : Nat) : (wait delay : Job σ Unit).Yields fun _ => True :=
  fun _ _ => trivial

theorem Yields.beside (yields : job.Yields p) {right : Job σ β} (yields' : right.Yields q) :
    (job.beside right).Yields fun both => p both.1 ∧ q both.2 :=
  fun s => Progress.Yields.beside (yields s) (yields' _) _ _ _

/-- Jobs side by side answer what each of them answers. -/
theorem yields_together {ι : Type} {jobs : ι → Job σ α} {answer : ι → α} (is : List ι)
    (each : ∀ i ∈ is, (jobs i).Yields (· = answer i)) :
    (together (is.map jobs)).Yields (· = is.map answer) := by
  induction is with
  | nil => exact yields_pure rfl
  | cons i is ih =>
    have first := each i (List.mem_cons_self ..)
    have others := ih fun j mem => each j (List.mem_cons_of_mem i mem)
    refine (first.beside others).bind ?_
    rintro ⟨a, more⟩ ⟨rfl, rfl⟩
    exact yields_pure rfl

end Job

/-- A call of its own answers the same. -/
theorem Work.yields_apart {work : Work ω α} (yields : work.Yields p) : (apart work).Yields p := by
  have kept : ∀ (others : CallNotes) (work : Progress (Client ω) α), work.Yields p →
      (keep others work).Yields p := by
    intro others work
    induction work generalizing others with
    | done a c => exact fun yields => yields
    | waits delay c rest ih => exact fun yields now => ih _ _ (yields _)
  exact fun c => kept c.notes _ (yields _)

/-! ### What the state keeps -/

variable {right : σ → Prop}

/-- Whenever the work waits, and when it ends, the state has a property, if it has it whenever the
work goes on; and then the answer has one, too. -/
def Progress.Maintains (right : σ → Prop) (p : α → Prop) : Progress σ α → Prop
  | .done a s => right s ∧ p a
  | .waits _ s rest => right s ∧ ∀ now, right now → (rest now).Maintains right p

theorem Progress.Maintains.andThen {work : Progress σ α} {next : α → Job σ β}
    (kept : work.Maintains right p)
    (each : ∀ a, p a → ∀ s, right s → (next a s).Maintains right q) :
    (work.andThen next).Maintains right q := by
  induction work with
  | done a s => exact each a kept.2 s kept.1
  | waits delay s rest ih => exact ⟨kept.1, fun now found => ih now (kept.2 now found)⟩

namespace Job

/-- The job keeps a property of the state, and its answer has one. -/
def Maintains (right : σ → Prop) (p : α → Prop) (job : Job σ α) : Prop :=
  ∀ s, right s → (job s).Maintains right p

theorem maintains_pure {a : α} (holds : p a) : (pure a : Job σ α).Maintains right p :=
  fun _ found => ⟨found, holds⟩

theorem Maintains.bind {job : Job σ α} {next : α → Job σ β} (kept : job.Maintains right p)
    (each : ∀ a, p a → (next a).Maintains right q) : (job >>= next).Maintains right q :=
  fun s found => (kept s found).andThen fun a holds => each a holds

theorem maintains_ofAction {act : StateM σ α}
    (kept : ∀ s, right s → right (act s).2 ∧ p (act s).1) : (ofAction act).Maintains right p := kept

theorem maintains_wait (delay : Nat) : (wait delay : Job σ Unit).Maintains right fun _ => True :=
  fun _ found => ⟨found, fun _ found => ⟨found, trivial⟩⟩

end Job

/-- A call of its own keeps what has nothing to do with notes. -/
theorem Work.maintains_apart {right : Client ω → Prop}
    (blind : ∀ c notes, right c → right { c with notes }) {work : Work ω α}
    (kept : work.Maintains right p) : (apart work).Maintains right p := by
  have going : ∀ (others : CallNotes) (work : Progress (Client ω) α), work.Maintains right p →
      (keep others work).Maintains right p := by
    intro others work
    induction work generalizing others with
    | done a c => exact fun kept => ⟨blind _ _ kept.1, kept.2⟩
    | waits delay c rest ih =>
      exact fun kept => ⟨blind _ _ kept.1, fun now found => ih _ _ (kept.2 _ (blind _ _ found))⟩
  exact fun c found => going c.notes _ (kept _ (blind _ _ found))

end OnionSwarm

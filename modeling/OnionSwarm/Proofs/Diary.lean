/-
What jobs enter in a diary, however they are mixed.

A diary is a list that a state holds.  A job enters something in it in each stretch of work between
two pauses; what others enter while it waits stays between its own entries.  So the entries of a job
are a list of their own, its history, and a fact about the history holds whatever the others do.

Of jobs side by side the histories are mixed: the diary is an interleaving of them, in which each
keeps its order.
-/
import Mathlib.Data.List.Perm.Basic
import OnionSwarm.Proofs.Job

namespace OnionSwarm

variable {σ α β γ δ ι ω : Type}

/-! ### Mixed lists -/

/-- Two lists put into one, each in its order. -/
inductive Mixed : List δ → List δ → List δ → Prop
  | nil : Mixed [] [] []
  | left (d : δ) {l r whole : List δ} : Mixed l r whole → Mixed (d :: l) r (d :: whole)
  | right (d : δ) {l r whole : List δ} : Mixed l r whole → Mixed l (d :: r) (d :: whole)

namespace Mixed

variable {l r whole : List δ}

theorem right_only : (r : List δ) → Mixed [] r r
  | [] => .nil
  | d :: r => .right d (right_only r)

theorem append_left (mixed : Mixed l r whole) : (more : List δ) →
    Mixed (more ++ l) r (more ++ whole)
  | [] => mixed
  | d :: more => .left d (append_left mixed more)

theorem append_right (mixed : Mixed l r whole) : (more : List δ) →
    Mixed l (more ++ r) (more ++ whole)
  | [] => mixed
  | d :: more => .right d (append_right mixed more)

theorem perm (mixed : Mixed l r whole) : whole.Perm (l ++ r) := by
  induction mixed with
  | nil => exact .refl _
  | left d _ ih => exact ih.cons d
  | right d _ ih => exact (ih.cons d).trans List.perm_middle.symm

theorem filter (mixed : Mixed l r whole) (own : δ → Bool) :
    Mixed (l.filter own) (r.filter own) (whole.filter own) := by
  induction mixed with
  | nil => exact .nil
  | left d _ ih =>
    cases mine : own d with
    | true => simpa [mine] using ih.left d
    | false => simpa [mine] using ih
  | right d _ ih =>
    cases mine : own d with
    | true => simpa [mine] using ih.right d
    | false => simpa [mine] using ih

theorem eq_left (mixed : Mixed l [] whole) : whole = l := by
  generalize none : ([] : List δ) = r at mixed
  induction mixed with
  | nil => rfl
  | left d _ ih => rw [ih none]
  | right => cases none

theorem eq_right (mixed : Mixed [] r whole) : whole = r := by
  generalize none : ([] : List δ) = l at mixed
  induction mixed with
  | nil => rfl
  | left => cases none
  | right d _ ih => rw [ih none]

end Mixed

/-! ### Entries of a job -/

variable {diary : σ → List δ} {p p' : α → List δ → Prop} {q : β → List δ → Prop}

namespace Progress

/-- Whatever the work finds after its pauses, its answer and all that it still enters have the
property. -/
def StillEnters (diary : σ → List δ) (p : α → List δ → Prop) : Progress σ α → Prop
  | .done a _ => p a []
  | .waits _ _ rest => ∀ now, ∃ entered, diary (rest now).state = diary now ++ entered ∧
      (rest now).StillEnters diary fun a more => p a (entered ++ more)

/-- The work began when the diary was `before`; its answer and all that it enters have the
property. -/
def Enters (diary : σ → List δ) (p : α → List δ → Prop) (before : List δ)
    (work : Progress σ α) : Prop :=
  ∃ entered, diary work.state = before ++ entered ∧
    work.StillEnters diary fun a more => p a (entered ++ more)

theorem StillEnters.mono {work : Progress σ α} (enters : work.StillEnters diary p)
    (weaker : ∀ a l, p a l → p' a l) : work.StillEnters diary p' := by
  induction work generalizing p p' with
  | done a s => exact weaker a [] enters
  | waits delay s rest ih =>
    intro now
    obtain ⟨entered, state, going⟩ := enters now
    exact ⟨entered, state, ih now going fun a l => weaker a (entered ++ l)⟩

/-- What was entered before counts, too. -/
theorem Enters.after {before entered : List δ} {work : Progress σ α}
    (enters : work.Enters diary (fun a more => p a (entered ++ more)) (before ++ entered)) :
    work.Enters diary p before := by
  obtain ⟨own, state, going⟩ := enters
  refine ⟨entered ++ own, by rw [state, List.append_assoc], going.mono fun a l holds => ?_⟩
  rwa [List.append_assoc]

theorem StillEnters.andThen {work : Progress σ α} {next : α → Job σ β}
    (enters : work.StillEnters diary p)
    (each : ∀ a l, p a l → ∀ s, (next a s).Enters diary (fun b more => q b (l ++ more)) (diary s)) :
    (work.andThen next).Enters diary q (diary work.state) := by
  induction work generalizing p q with
  | done a s => exact each a [] enters s
  | waits delay s rest ih =>
    refine ⟨[], (List.append_nil _).symm, fun now => ?_⟩
    obtain ⟨entered, state, going⟩ := enters now
    have whole := ih now (q := fun b more => q b (entered ++ more)) going fun a l holds s => by
      simpa only [List.append_assoc] using each a (entered ++ l) holds s
    rw [state] at whole
    exact whole.after

theorem StillEnters.run {work : Progress σ α} (enters : work.StillEnters diary p)
    {pass : Nat → StateM σ Unit} (silent : ∀ delay s, diary (pass delay s).2 = diary s) :
    ∃ entered, diary (work.run pass).2 = diary work.state ++ entered ∧
      p (work.run pass).1 entered := by
  induction work generalizing p with
  | done a s => exact ⟨[], (List.append_nil _).symm, enters⟩
  | waits delay s rest ih =>
    obtain ⟨entered, state, going⟩ := enters (pass delay s).2
    obtain ⟨more, left, holds⟩ := ih _ going
    refine ⟨entered ++ more, ?_, holds⟩
    rw [Progress.run, left, state, silent, List.append_assoc]
    rfl

theorem Enters.run {before : List δ} {work : Progress σ α} (enters : work.Enters diary p before)
    {pass : Nat → StateM σ Unit} (silent : ∀ delay s, diary (pass delay s).2 = diary s) :
    ∃ entered, diary (work.run pass).2 = before ++ entered ∧ p (work.run pass).1 entered := by
  obtain ⟨entered, state, going⟩ := enters
  obtain ⟨more, left, holds⟩ := going.run silent
  exact ⟨entered ++ more, by rw [left, state, List.append_assoc], holds⟩

/-! ### Side by side -/

/-- The entries of two jobs are mixed. -/
def Both (p : α → List δ → Prop) (q : β → List δ → Prop) (answers : α × β) (whole : List δ) : Prop :=
  ∃ l r, Mixed l r whole ∧ p answers.1 l ∧ q answers.2 r

theorem Both.left {entered whole : List δ} {answers : α × β}
    (both : Both (fun a more => p a (entered ++ more)) q answers whole) :
    Both p q answers (entered ++ whole) := by
  obtain ⟨l, r, mixed, left, right⟩ := both
  exact ⟨entered ++ l, r, mixed.append_left entered, left, right⟩

theorem Both.right {entered whole : List δ} {answers : α × β}
    (both : Both p (fun b more => q b (entered ++ more)) answers whole) :
    Both p q answers (entered ++ whole) := by
  obtain ⟨l, r, mixed, left, right⟩ := both
  exact ⟨l, entered ++ r, mixed.append_right entered, left, right⟩

theorem StillEnters.onlyRight {right : Progress σ β} (enters : right.StillEnters diary q) {a : α}
    (holds : p a []) (rightWaits : Nat) (now : σ) :
    (right.onlyRight a rightWaits now).StillEnters diary (Both p q) := by
  cases right with
  | done b s => exact ⟨[], [], .nil, holds, enters⟩
  | waits delay s rest =>
    intro now
    obtain ⟨entered, state, going⟩ := enters now
    have whole : ((rest now).andThen fun b => (pure (a, b) : Job σ (α × β))).Enters diary
        (fun answers more => Both p q answers (entered ++ more)) (diary (rest now).state) := by
      refine going.andThen fun b l found s => ⟨[], (List.append_nil _).symm, ?_⟩
      exact ⟨[], entered ++ l, by simpa using Mixed.right_only (entered ++ l), holds, found⟩
    rw [state] at whole
    exact whole.after

theorem state_beforeLeft (resume : σ → Progress σ β → Nat → Progress σ γ) (leftWaits : Nat)
    (right : Progress σ β) (rightWaits : Nat) (now : σ) :
    (right.beforeLeft resume leftWaits rightWaits now).state = now := by
  cases right with
  | done b s => rfl
  | waits delay s rest =>
    rw [beforeLeft]
    split <;> rfl

theorem state_beside (left : Progress σ α) (leftWaits : Nat) (right : Progress σ β)
    (rightWaits : Nat) (now : σ) : (left.beside leftWaits right rightWaits now).state = now := by
  cases left with
  | done a s => cases right <;> rfl
  | waits delay s rest => exact state_beforeLeft ..

/-- What goes on before the job on the left does is entered in front of what is entered then. -/
theorem StillEnters.beforeLeft {right : Progress σ β} (enters : right.StillEnters diary q)
    {resume : σ → Progress σ β → Nat → Progress σ (α × β)}
    (resumed : ∀ now right rightWaits q, StillEnters diary q right →
      (resume now right rightWaits).Enters diary (Both p q) (diary now))
    (leftWaits rightWaits : Nat) (now : σ) :
    (right.beforeLeft resume leftWaits rightWaits now).StillEnters diary (Both p q) := by
  induction right generalizing q leftWaits rightWaits now with
  | done b s => exact fun now => resumed now (.done b s) 0 q enters
  | waits delay s rest ih =>
    rw [Progress.beforeLeft]
    split
    · exact fun now => resumed now (.waits delay s rest) _ q enters
    · intro now
      obtain ⟨entered, state, going⟩ := enters now
      refine ⟨entered, by rw [state_beforeLeft, state], ?_⟩
      exact (ih now going _ _ _).mono fun _ _ => Both.right

theorem StillEnters.beside {left : Progress σ α} {right : Progress σ β}
    (enters : left.StillEnters diary p) (enters' : right.StillEnters diary q)
    (leftWaits rightWaits : Nat) (now : σ) :
    (left.beside leftWaits right rightWaits now).StillEnters diary (Both p q) := by
  induction left generalizing p q right leftWaits rightWaits now with
  | done a s => exact enters'.onlyRight enters rightWaits now
  | waits delay s rest ih =>
    refine enters'.beforeLeft ?_ leftWaits rightWaits now
    intro now right rightWaits q enters'
    obtain ⟨entered, state, going⟩ := enters now
    refine ⟨entered, by rw [state_beside, state], ?_⟩
    exact (ih now going enters' _ _ _).mono fun _ _ => Both.left

end Progress

namespace Job

open Progress (Both)

/-- Whatever the job finds at first and after its pauses, its answer and all that it enters have the
property. -/
def Enters (diary : σ → List δ) (p : α → List δ → Prop) (job : Job σ α) : Prop :=
  ∀ s, (job s).Enters diary p (diary s)

variable {job : Job σ α}

theorem enters_pure {a : α} (holds : p a []) : (pure a : Job σ α).Enters diary p :=
  fun _ => ⟨[], (List.append_nil _).symm, holds⟩

theorem enters_ofAction {act : StateM σ α}
    (each : ∀ s, ∃ entered, diary (act s).2 = diary s ++ entered ∧ p (act s).1 entered) :
    (ofAction act).Enters diary p := by
  intro s
  obtain ⟨entered, state, holds⟩ := each s
  refine ⟨entered, state, ?_⟩
  change p (act s).1 (entered ++ [])
  rwa [List.append_nil]

/-- An action enters something, and the rest of the job goes on with the state that it leaves. -/
theorem enters_action_bind {act : StateM σ α} {next : α → Job σ β} {s s' : σ} {a : α}
    (did : act s = (a, s')) (entered : List δ) (state : diary s' = diary s ++ entered)
    (rest : (next a s').Enters diary (fun b more => q b (entered ++ more)) (diary s')) :
    ((ofAction act >>= next) s).Enters diary q (diary s) := by
  have going : (next (act s).1 (act s).2).Enters diary q (diary s) := by
    rw [state] at rest
    rw [did]
    exact rest.after
  exact going

/-- What is done after a job that has begun in some state. -/
theorem enters_bind_at {next : α → Job σ β} {s : σ} (enters : (job s).Enters diary p (diary s))
    (each : ∀ a l, p a l → (next a).Enters diary fun b more => q b (l ++ more)) :
    ((job >>= next) s).Enters diary q (diary s) := by
  obtain ⟨entered, state, going⟩ := enters
  have whole := going.andThen (q := fun b more => q b (entered ++ more)) fun a l holds s => by
    simpa only [List.append_assoc] using each a (entered ++ l) holds s
  rw [state] at whole
  exact whole.after

theorem Enters.bind {next : α → Job σ β} (enters : job.Enters diary p)
    (each : ∀ a l, p a l → (next a).Enters diary fun b more => q b (l ++ more)) :
    (job >>= next).Enters diary q := fun s => enters_bind_at (enters s) each

/-- If nothing is entered while time passes, the diary holds at the end what the job entered. -/
theorem Enters.run (enters : job.Enters diary p) {pass : Nat → StateM σ Unit}
    (silent : ∀ delay s, diary (pass delay s).2 = diary s) (s : σ) :
    ∃ entered, diary (job.run pass s).2 = diary s ++ entered ∧ p (job.run pass s).1 entered :=
  Progress.Enters.run (enters s) silent

theorem Enters.beside (enters : job.Enters diary p) {right : Job σ β}
    (enters' : right.Enters diary q) : (job.beside right).Enters diary (Both p q) := by
  intro s
  obtain ⟨entered, state, going⟩ := enters s
  obtain ⟨entered', state', going'⟩ := enters' (job s).state
  refine ⟨entered ++ entered', ?_, (going.beside going' _ _ _).mono fun _ _ both => ?_⟩
  · rw [Job.beside, Progress.state_beside, state', state, List.append_assoc]
  · rw [List.append_assoc]
    exact both.right.left

/-- What the jobs of a list answer and enter: the answers in their order, and the entries mixed. -/
inductive AllEnter (p : ι → α → List δ → Prop) : List ι → List α → List δ → Prop
  | nil : AllEnter p [] [] []
  | cons {i : ι} {a : α} {own : List δ} {is : List ι} {as : List α} {others whole : List δ}
      (first : p i a own) (rest : AllEnter p is as others) (mixed : Mixed own others whole) :
      AllEnter p (i :: is) (a :: as) whole

/-- The diary of jobs side by side is a mixture of their histories. -/
theorem enters_together {jobs : ι → Job σ α} {p : ι → α → List δ → Prop} (is : List ι)
    (each : ∀ i ∈ is, (jobs i).Enters diary (p i)) :
    (together (is.map jobs)).Enters diary (AllEnter p is) := by
  induction is with
  | nil => exact enters_pure .nil
  | cons i is ih =>
    have first := each i (List.mem_cons_self ..)
    have others := ih fun j mem => each j (List.mem_cons_of_mem i mem)
    refine (first.beside others).bind ?_
    rintro ⟨a, as⟩ whole ⟨own, rest, mixed, holds, hold⟩
    exact enters_pure (.cons holds hold (by rwa [List.append_nil]))

end Job

/-! ### A call of its own -/

namespace Work

theorem state_keep (others : CallNotes) (work : Progress (Client ω) α) :
    (keep others work).state = { work.state with notes := others } := by
  cases work <;> rfl

theorem stillEnters_keep {diary : Client ω → List δ}
    (blind : ∀ c notes, diary { c with notes } = diary c) (others : CallNotes)
    {work : Progress (Client ω) α} (enters : work.StillEnters diary p) :
    (keep others work).StillEnters diary p := by
  induction work generalizing p others with
  | done a c => exact enters
  | waits delay c rest ih =>
    intro now
    obtain ⟨entered, state, going⟩ := enters { now with notes := c.notes }
    refine ⟨entered, ?_, ih _ _ going⟩
    rw [state_keep, blind, state, blind]

/-- A call of its own enters the same, if notes have nothing to do with the diary. -/
theorem enters_apart {diary : Client ω → List δ}
    (blind : ∀ c notes, diary { c with notes } = diary c) {work : Work ω α} {c : Client ω}
    (enters : (work { c with notes := .empty }).Enters diary p (diary c)) :
    (apart work c).Enters diary p (diary c) := by
  obtain ⟨entered, state, going⟩ := enters
  exact ⟨entered, by rw [apart, state_keep, blind, state], stillEnters_keep blind c.notes going⟩

end Work
end OnionSwarm

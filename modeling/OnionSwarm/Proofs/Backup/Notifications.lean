/-
Every notification brings a round with it.

A run is any sequence of events that can happen one after another: notifications come and stop
coming at any time, and in between the loop makes its own steps.  A notification is answered by a
round that begins after it.  Until then it is not lost in the loop: it is still queued, or the loop
has it in hand and is about to begin a round (`Kept.answered`).  So the loop cannot come to rest
with a notification that was not answered, and each step that it makes by itself brings it nearer
to the round: the queue is finite, and only notifications make it longer.

A queue that has room for only so many notifications makes fewer runs possible, and no others.
What a round comes to has no part in this.  The program makes the steps of the loop by itself, one
after another, with a round wherever one begins (`run_eq`).
-/
import Mathlib.Data.List.Induction
import Mathlib.Tactic.Common
import OnionSwarm.Client.Backup

namespace OnionSwarm.Backup

namespace LoopEvent

/-- Is it the loop itself that makes the step? -/
def isOwn : LoopEvent → Bool
  | .notify | .close => false
  | .take | .dry | .finish | .stop => true

end LoopEvent

namespace Loop

/-- What a run leads to; nothing if one of its events cannot happen. -/
def after (l : Loop) : List LoopEvent → Option Loop
  | [] => some l
  | e :: rest => (l.step e).bind (·.after rest)

/-- A round begins after each notification. -/
def Answered (events : List LoopEvent) : Prop :=
  ∀ before later, events = before ++ .notify :: later → .dry ∈ later

/-! ### One event -/

/-- What each event finds, and what it leads to. -/
inductive Steps : Loop → LoopEvent → Loop → Prop
  | notify {l : Loop} (heard : l.isOpen = true) (goesOn : l.phase ≠ .stopped) :
      Steps l .notify { l with queued := l.queued + 1 }
  | close (l : Loop) : Steps l .close { l with isOpen := false }
  | wakes (n rounds : Nat) (isOpen : Bool) :
      Steps ⟨.waiting, n + 1, isOpen, rounds⟩ .take ⟨.draining, n, isOpen, rounds⟩
  | drains (n rounds : Nat) (isOpen : Bool) :
      Steps ⟨.draining, n + 1, isOpen, rounds⟩ .take ⟨.draining, n, isOpen, rounds⟩
  | begins (rounds : Nat) (isOpen : Bool) :
      Steps ⟨.draining, 0, isOpen, rounds⟩ .dry ⟨.round, 0, isOpen, rounds + 1⟩
  | finish (queued rounds : Nat) (isOpen : Bool) :
      Steps ⟨.round, queued, isOpen, rounds⟩ .finish ⟨.waiting, queued, isOpen, rounds⟩
  | stop (rounds : Nat) : Steps ⟨.waiting, 0, false, rounds⟩ .stop ⟨.stopped, 0, false, rounds⟩

variable {l l' : Loop} {e : LoopEvent} {events : List LoopEvent}

theorem steps_of_step (step : l.step e = some l') : Steps l e l' := by
  obtain ⟨phase, queued, isOpen, rounds⟩ := l
  -- where the loop is and what is queued leave one step at most for each event
  cases e with
  | notify =>
    simp only [Loop.step, Option.ite_none_right_eq_some] at step
    obtain ⟨may, form⟩ := step
    simp only [Bool.and_eq_true, decide_eq_true_eq] at may
    obtain rfl := Option.some.inj form
    exact .notify may.1 may.2
  | close =>
    obtain rfl := Option.some.inj step
    exact .close _
  | take =>
    cases phase <;> cases queued <;> cases step
    · exact .wakes _ _ _
    · exact .drains _ _ _
  | dry =>
    cases phase <;> cases queued <;> cases step
    exact .begins _ _
  | finish =>
    cases phase <;> cases step
    exact .finish _ _ _
  | stop =>
    simp only [Loop.step, Option.ite_none_right_eq_some] at step
    obtain ⟨⟨rfl, rfl, closed⟩, form⟩ := step
    cases isOpen with
    | true => cases closed
    | false =>
      obtain rfl := Option.some.inj form
      exact .stop _

/-- The loop has no choice: what it can do by itself is what it does next. -/
theorem Steps.next? (steps : Steps l e l') (own : e.isOwn = true) : l.next? = some e := by
  cases steps with
  | notify => cases own
  | close => cases own
  | wakes | drains | begins | finish | stop => rfl

theorem exists_step_of_next? (next : l.next? = some e) :
    ∃ l', l.step e = some l' ∧ e.isOwn = true := by
  obtain ⟨phase, queued, isOpen, rounds⟩ := l
  cases phase <;> cases queued <;> cases isOpen <;> cases next <;> exact ⟨_, rfl, rfl⟩

/-! ### Runs -/

theorem after_append (l : Loop) (events more : List LoopEvent) :
    l.after (events ++ more) = (l.after events).bind (·.after more) := by
  induction events generalizing l with
  | nil => rfl
  | cons e events ih =>
    rw [List.cons_append, after, after, Option.bind_assoc]
    exact congrArg _ (funext ih)

/-- The last event of a run, and the run before it. -/
theorem after_snoc (run : l.after (events ++ [e]) = some l') :
    ∃ m, l.after events = some m ∧ Steps m e l' := by
  rw [after_append] at run
  obtain ⟨m, before, last⟩ := Option.bind_eq_some_iff.1 run
  obtain ⟨_, step, same⟩ := Option.bind_eq_some_iff.1 last
  obtain rfl := Option.some.inj same
  exact ⟨m, before, steps_of_step step⟩

/-- The first event of a run, and the run after it. -/
theorem after_cons (run : l.after (e :: events) = some l') :
    ∃ m, Steps l e m ∧ m.after events = some l' := by
  obtain ⟨m, step, rest⟩ := Option.bind_eq_some_iff.1 run
  exact ⟨m, steps_of_step step, rest⟩

theorem answered_nil : Answered [] := by
  intro before later form
  simp at form

/-- The round that begins last answers everything before it. -/
theorem answered_dry (events : List LoopEvent) : Answered (events ++ [.dry]) := by
  intro before later form
  rcases List.append_eq_append_iff.1 form with ⟨more, -, rest⟩ | ⟨more, -, rest⟩
  · cases more with
    | nil => cases rest
    | cons first more => simp at rest
  · cases more with
    | nil => cases rest
    | cons first more =>
      obtain ⟨-, rfl⟩ := List.cons.inj rest
      simp

/-- Nothing but a notification has to be answered. -/
theorem Answered.snoc (answered : Answered events) (other : e ≠ .notify) :
    Answered (events ++ [e]) := by
  intro before later form
  rcases List.append_eq_append_iff.1 form with ⟨more, -, rest⟩ | ⟨more, whole, rest⟩
  · cases more with
    | nil => exact absurd (List.cons.inj rest).1 other
    | cons first more => simp at rest
  · cases more with
    | nil => exact absurd (List.cons.inj rest).1.symm other
    | cons first more =>
      obtain ⟨rfl, rfl⟩ := List.cons.inj rest
      exact List.mem_append_left _ (answered before more whole)

/-! ### What a run keeps -/

/-- How a loop stands after the events of a run. -/
structure Kept (events : List LoopEvent) (l : Loop) : Prop where
  /-- A notification that was not answered is queued, or is the reason why a round is about to
  begin. -/
  answered : l.queued = 0 → l.phase ≠ .draining → Answered events
  /-- A round is being made from its beginning to its end. -/
  rounds : events.count .dry = events.count .finish + if l.phase = .round then 1 else 0
  /-- No notification makes for two rounds. -/
  notified : events.count .dry + l.queued + (if l.phase = .draining then 1 else 0)
    ≤ events.count .notify
  closed : l.isOpen = false → .close ∈ events
  stopped : l.phase = .stopped → l.isOpen = false ∧ l.queued = 0

theorem kept_start : Kept [] (start 0 true) where
  answered _ _ := answered_nil
  rounds := rfl
  notified := Nat.le_refl _
  closed := nofun
  stopped := nofun

theorem Kept.snoc (kept : Kept events l) (steps : Steps l e l') : Kept (events ++ [e]) l' := by
  obtain ⟨answered, rounds, notified, closed, stopped⟩ := kept
  -- a notification leaves something to be answered, and a round that begins answers all
  cases steps with
  | notify heard goesOn =>
    refine ⟨fun none => absurd none (Nat.succ_ne_zero _), ?_, ?_, ?_, ?_⟩
    · simpa using rounds
    · simp only [List.count_append, List.count_singleton] at notified ⊢
      simp
      omega
    · exact fun isClosed => List.mem_append_left _ (closed isClosed)
    · exact fun isStopped => absurd isStopped goesOn
  | close =>
    refine ⟨fun none calm => (answered none calm).snoc (by simp), ?_, ?_, fun _ => by simp, ?_⟩
    · simpa using rounds
    · simpa using notified
    · exact fun isStopped => ⟨rfl, (stopped isStopped).2⟩
  | wakes n | drains n =>
    refine ⟨fun _ calm => absurd rfl calm, ?_, ?_, ?_, by simp⟩
    · simpa using rounds
    · simp at notified ⊢
      omega
    · exact fun isClosed => List.mem_append_left _ (closed isClosed)
  | begins =>
    refine ⟨fun _ _ => answered_dry events, ?_, ?_, ?_, by simp⟩
    · simpa using rounds
    · simp at notified ⊢
      omega
    · exact fun isClosed => List.mem_append_left _ (closed isClosed)
  | finish =>
    refine ⟨fun none _ => (answered none (by simp)).snoc (by simp), ?_, ?_, ?_, by simp⟩
    · simpa using rounds
    · simpa using notified
    · exact fun isClosed => List.mem_append_left _ (closed isClosed)
  | stop =>
    refine ⟨fun none _ => (answered none (by simp)).snoc (by simp), ?_, ?_, ?_, fun _ => ⟨rfl, rfl⟩⟩
    · simpa using rounds
    · simpa using notified
    · exact fun isClosed => List.mem_append_left _ (closed isClosed)

theorem kept_of_after (run : (start 0 true).after events = some l) : Kept events l := by
  induction events using List.reverseRecOn generalizing l with
  | nil =>
    obtain rfl := Option.some.inj run
    exact kept_start
  | append_singleton events e ih =>
    obtain ⟨m, before, steps⟩ := after_snoc run
    exact (ih before).snoc steps

/-- A loop that has nothing to do by itself has no notification left. -/
theorem Kept.answered_of_rest (kept : Kept events l) (rest : l.next? = none) : Answered events := by
  obtain ⟨phase, queued, isOpen, rounds⟩ := l
  cases phase <;> cases queued <;> cases isOpen <;> cases rest
  · exact kept.answered rfl nofun
  · exact kept.answered rfl nofun
  · exact kept.answered rfl nofun
  · exact absurd (kept.stopped rfl).2 nofun
  · exact absurd (kept.stopped rfl).2 nofun

/-! ### How long it takes -/

/-- Steps that the loop makes by itself at most before it begins a round. -/
def toRound (l : Loop) : Nat :=
  match l.phase with
  | .waiting => l.queued + 1
  | .draining => l.queued
  | .round => l.queued + 2
  | .stopped => 0

/-- Steps that the loop makes by itself at most, if no more notifications come. -/
def toEnd (l : Loop) : Nat :=
  match l.phase with
  | .waiting => 3 * l.queued + 1
  | .draining => 3 * l.queued + 3
  | .round => 3 * l.queued + 2
  | .stopped => 0

theorem Steps.toRound_le (steps : Steps l e l') (noRound : e ≠ .dry) :
    (if e.isOwn then 1 else 0) + l'.toRound ≤ l.toRound + if e = .notify then 1 else 0 := by
  cases steps with
  | notify heard goesOn =>
    obtain ⟨phase, queued, isOpen, rounds⟩ := l
    cases phase <;> simp [toRound, LoopEvent.isOwn] at goesOn ⊢
  | begins => exact absurd rfl noRound
  | wakes n => simp [toRound, LoopEvent.isOwn]; omega
  | drains n => simp [toRound, LoopEvent.isOwn]; omega
  | finish n => simp [toRound, LoopEvent.isOwn]; omega
  | close | stop => simp [toRound, LoopEvent.isOwn]

theorem Steps.toEnd_le (steps : Steps l e l') :
    (if e.isOwn then 1 else 0) + l'.toEnd ≤ l.toEnd + 3 * if e = .notify then 1 else 0 := by
  cases steps with
  | notify heard goesOn =>
    obtain ⟨phase, queued, isOpen, rounds⟩ := l
    cases phase <;> simp [toEnd, LoopEvent.isOwn] at goesOn ⊢ <;> omega
  | wakes n => simp [toEnd, LoopEvent.isOwn]; omega
  | drains n => simp [toEnd, LoopEvent.isOwn]; omega
  | finish n => simp [toEnd, LoopEvent.isOwn]; omega
  | close | begins | stop => simp [toEnd, LoopEvent.isOwn]

/-- As long as no round begins, only notifications give the loop more to do. -/
theorem countP_isOwn_le_of_noRound (run : l.after events = some l') (noRound : .dry ∉ events) :
    events.countP LoopEvent.isOwn + l'.toRound ≤ l.toRound + events.count .notify := by
  induction events generalizing l with
  | nil =>
    obtain rfl := Option.some.inj run
    simp
  | cons e events ih =>
    obtain ⟨m, steps, rest⟩ := after_cons run
    obtain ⟨now, later⟩ := List.ne_and_not_mem_of_not_mem_cons noRound
    have first := steps.toRound_le now.symm
    have others := ih rest later
    rw [List.countP_cons, List.count_cons]
    simp only [beq_iff_eq] at first ⊢
    omega

/-- The loop makes no more than a few steps for each notification. -/
theorem countP_isOwn_le (run : l.after events = some l') :
    events.countP LoopEvent.isOwn + l'.toEnd ≤ l.toEnd + 3 * events.count .notify := by
  induction events generalizing l with
  | nil =>
    obtain rfl := Option.some.inj run
    simp
  | cons e events ih =>
    obtain ⟨m, steps, rest⟩ := after_cons run
    have first := steps.toEnd_le
    have others := ih rest
    rw [List.countP_cons, List.count_cons]
    simp only [beq_iff_eq] at first ⊢
    omega

/-! ### The program -/

/-- Makes some rounds one after another. -/
def roundsThen {m : Type → Type} [Monad m] (round : m Unit) : Nat → Loop → m Loop
  | 0, l => pure l
  | count + 1, l => do
    round
    roundsThen round count l

theorem Steps.round_iff (steps : Steps l e l') (own : e.isOwn = true) :
    l'.phase = .round ↔ e = .dry := by
  cases steps with
  | notify | close => cases own
  | begins => exact ⟨fun _ => rfl, fun _ => rfl⟩
  | wakes | drains | finish | stop => exact ⟨nofun, nofun⟩

theorem runFor_eq {m : Type → Type} [Monad m] (round : m Unit) {steps : Nat}
    (enough : l.toEnd ≤ steps) :
    ∃ own later, (∀ e ∈ own, e.isOwn = true) ∧ l.after own = some later ∧ later.next? = none ∧
      runFor round steps l = roundsThen round (own.count .dry) later := by
  induction steps generalizing l with
  | zero =>
    obtain ⟨phase, queued, isOpen, rounds⟩ := l
    cases phase with
    | stopped => exact ⟨[], _, nofun, rfl, rfl, rfl⟩
    | waiting | draining | round => simp [toEnd] at enough
  | succ steps ih =>
    cases next : l.next? with
    | none => exact ⟨[], l, nofun, rfl, next, by rw [runFor, next]; rfl⟩
    | some e =>
      obtain ⟨l', step, isOwn⟩ := exists_step_of_next? next
      have made := steps_of_step step
      -- a step of its own brings the loop closer to its end, so one step less is enough
      have fewer := made.toEnd_le
      rw [if_pos isOwn] at fewer
      have quiet : e ≠ .notify := by
        rintro rfl
        cases isOwn
      rw [if_neg quiet] at fewer
      obtain ⟨own, later, each, run, rest, same⟩ := ih (l := l') (by omega)
      refine ⟨e :: own, later, ?_, ?_, rest, ?_⟩
      · intro other mem
        rcases List.mem_cons.1 mem with rfl | mem
        · exact isOwn
        · exact each other mem
      · rw [after, step]
        exact run
      · rw [runFor, next, Option.bind_some, step]
        by_cases begins : e = .dry
        · subst begins
          simp only [if_pos ((made.round_iff isOwn).2 rfl), List.count_cons_self, roundsThen, same]
        · simp only [if_neg (mt (made.round_iff isOwn).1 begins), same]
          rw [List.count_cons_of_ne begins]

theorem toEnd_le_enough (l : Loop) : l.toEnd ≤ l.enough := by
  unfold toEnd enough
  split <;> omega

/-- Nobody notifies a loop after the end of notifications. -/
theorem count_notify_of_closed (closed : l.isOpen = false) (run : l.after events = some l') :
    events.count .notify = 0 ∧ l'.isOpen = false := by
  induction events generalizing l with
  | nil =>
    obtain rfl := Option.some.inj run
    exact ⟨rfl, closed⟩
  | cons e events ih =>
    obtain ⟨m, steps, rest⟩ := after_cons run
    have still : e ≠ .notify ∧ m.isOpen = false := by
      cases steps with
      | notify heard => exact absurd (closed.symm.trans heard) nofun
      | close | stop => exact ⟨nofun, rfl⟩
      | wakes | drains | begins | finish => exact ⟨nofun, closed⟩
    rw [List.count_cons_of_ne still.1]
    exact ih still.2 rest

/-- A loop that nobody can notify any more rests only at its end. -/
theorem stopped_of_rest (closed : l.isOpen = false) (rest : l.next? = none) :
    l.phase = .stopped := by
  obtain ⟨phase, queued, isOpen, rounds⟩ := l
  subst closed
  cases phase <;> cases queued <;> cases rest <;> rfl

/-- **No notification is lost.**  Whenever notifications come and stop coming, and whatever rounds
come to: a loop that rests has answered every notification with a round that begins after it; until
then it has a step to make by itself, and comes to a round after no more of them than there are
notifications queued, or added meanwhile, and two.  A round ends before the next one begins, and
there are no more rounds than notifications.  The loop stops only after the end of notifications,
with all of them answered and no round unfinished; and then it does stop.  The program makes the
steps of the loop by itself, with a round wherever one begins. -/
theorem notifications_answered (run : (start 0 true).after events = some l) :
    (l.next? = none → Answered events) ∧
    (∀ more later, l.after more = some later → .dry ∉ more →
      more.countP LoopEvent.isOwn ≤ l.queued + 2 + more.count .notify) ∧
    events.count .dry = events.count .finish + (if l.phase = .round then 1 else 0) ∧
    events.count .dry ≤ events.count .notify ∧
    (l.phase = .stopped →
      .close ∈ events ∧ Answered events ∧ events.count .dry = events.count .finish) ∧
    (l.isOpen = false → ∀ more later, l.after more = some later →
      more.countP LoopEvent.isOwn ≤ 3 * l.queued + 3 ∧
        (later.next? = none → later.phase = .stopped)) ∧
    ∀ {ω : Type} (b : ObjectBackup ω), ∃ own later,
      (∀ e ∈ own, e.isOwn = true) ∧ l.after own = some later ∧ later.next? = none ∧
        Answered (events ++ own) ∧
        l.run (discard b.pushPending)
          = roundsThen (discard b.pushPending) (own.count .dry) later := by
  have kept := kept_of_after run
  refine ⟨kept.answered_of_rest, ?_, kept.rounds, ?_, ?_, ?_, ?_⟩
  · intro more later goesOn noRound
    have bound := countP_isOwn_le_of_noRound goesOn noRound
    have first : l.toRound ≤ l.queued + 2 := by
      unfold toRound
      split <;> omega
    omega
  · have bound := kept.notified
    omega
  · intro stopped
    have rounds := kept.rounds
    rw [stopped] at rounds
    obtain ⟨closed, none⟩ := kept.stopped stopped
    exact ⟨kept.closed closed, kept.answered none (by rw [stopped]; nofun), rounds⟩
  -- nothing is added any more, so every step leads towards the end
  · intro closed more later goesOn
    obtain ⟨quiet, stillClosed⟩ := count_notify_of_closed closed goesOn
    have bound := countP_isOwn_le goesOn
    have first : l.toEnd ≤ 3 * l.queued + 3 := by
      unfold toEnd
      split <;> omega
    exact ⟨by omega, stopped_of_rest stillClosed⟩
  · intro ω b
    obtain ⟨own, later, each, goesOn, rest, same⟩ :=
      runFor_eq (discard b.pushPending) l.toEnd_le_enough
    have whole : (start 0 true).after (events ++ own) = some later := by
      rw [after_append, run]
      exact goesOn
    exact ⟨own, later, each, goesOn, rest, (kept_of_after whole).answered_of_rest rest, same⟩

/-- Notifications before a drain, during it, and while a round is made; the end of notifications
comes during that round, too. -/
def trialEvents : List LoopEvent :=
  [.notify, .take, .notify, .take, .dry, .notify, .close, .finish, .take, .dry, .finish, .stop]

theorem notifications_answered_trialEvents :
    (start 0 true).after trialEvents = some ⟨.stopped, 0, false, 2⟩ ∧ Answered trialEvents ∧
      trialEvents.count .dry = trialEvents.count .finish := by
  have run : (start 0 true).after trialEvents = some ⟨.stopped, 0, false, 2⟩ := by decide
  obtain ⟨-, -, -, -, stopped, -⟩ := notifications_answered run
  exact ⟨run, (stopped rfl).2⟩

end Loop
end OnionSwarm.Backup

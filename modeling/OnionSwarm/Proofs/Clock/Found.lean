/-
What the calls for the time are told.

A call is told that the time is known if it found the time itself, or if somebody else did between
its request and its turn; then it need not ask.  It is told that the time is not known if it asked
in vain, or came too soon after the time was found; then too it does not ask.
-/
import Mathlib.Data.List.Infix
import OnionSwarm.Proofs.Clock.Turns

namespace OnionSwarm.Clock.Line

variable {interval : Nat} {s s' : Line} {id : Nat} {m : Move} {moves : List (Nat × Move)}

/-! ### Who never asks -/

/-- A call that waits has not asked before. -/
theorem not_asking_of_waits {requested r : Nat} (ran : run interval s moves = some s')
    (waits : s'.progress id = some (.waiting requested)) : s.progress id ≠ some (.asking r) := by
  intro asks
  have waited := waits_before_of_run ran (by simp [asks]) waits
  cases asks.symm.trans waited

/-- At no moment of the run does the call ask. -/
def NeverAsks (interval : Nat) (moves : List (Nat × Move)) (id : Nat) : Prop :=
  ∀ first u, first <+: moves → run interval start first = some u →
    ∀ requested, u.progress id ≠ some (.asking requested)

/-- A call that waits up to some move, and does not ask from then on, never asks. -/
theorem neverAsks_of_waits {before after : List (Nat × Move)} {u v : Line} {requested : Nat}
    (ran : run interval start before = some u) (moved : u.step interval id m = some v)
    (waits : u.progress id = some (.waiting requested))
    (quiet : ∀ mid w, mid <+: after → run interval v mid = some w →
      ∀ r, w.progress id ≠ some (.asking r)) :
    NeverAsks interval (before ++ (id, m) :: after) id := by
  intro first w part ranFirst r
  obtain short | long := List.prefix_or_prefix_of_prefix part (List.prefix_append before _)
  · obtain ⟨mid, rfl⟩ := short
    rw [run_append, ranFirst] at ran
    exact not_asking_of_waits ran waits
  · obtain ⟨mid, rfl⟩ := long
    rw [run_append, ran] at ranFirst
    obtain rfl | ⟨mid, rfl, part'⟩ :=
      List.prefix_cons_iff.1 ((List.prefix_append_right_inj before).1 part)
    · obtain rfl := Option.some.inj ranFirst
      simp [waits]
    · rw [Option.bind_some, run, moved] at ranFirst
      exact quiet mid w part' ranFirst r

/-! ### What a call was told -/

/-- When the call got its turn, the time had been found since its request. -/
def FoundMeanwhile (interval : Nat) (moves : List (Nat × Move)) (id : Nat) : Prop :=
  ∃ before after u requested last, moves = before ++ (id, .enter) :: after ∧
    run interval start before = some u ∧ (id, .request requested) ∈ before ∧
    u.turns.lastFound = some last ∧ requested ≤ last

/-- A call that was made waits, if at all, with the instant at which it was made. -/
theorem eq_requested {requested r : Nat} (ran : run interval start moves = some s)
    (made : (id, .request requested) ∈ moves) (waits : s.progress id = some (.waiting r)) :
    r = requested := by
  obtain ⟨before, after, rfl⟩ := List.append_of_mem made
  obtain ⟨u, v, -, moved, ranAfter⟩ := run_split ran
  have fresh : v.progress id = some (.waiting requested) := by
    cases steps_of_step moved with
    | request new => exact (progress_request _ _ _).trans (if_pos rfl)
  have waited := waits_before_of_run ranAfter (by simp [fresh]) waits
  exact Progress.waiting.inj (Option.some.inj (waited.symm.trans fresh))

theorem requested_of_waits {requested : Nat} (ran : run interval start moves = some s)
    (waits : s.progress id = some (.waiting requested)) : (id, .request requested) ∈ moves := by
  refine run_keeps (P := fun s => s.progress id = some (.waiting requested) →
    (id, .request requested) ∈ moves) ran ?_ nofun waits
  intro s s' other m mem moved ih waits
  obtain waited | ⟨rfl, rfl, -⟩ := moved.waits_before waits
  · exact ih waited
  · exact mem

/-- Nobody is done without a turn. -/
theorem entered_of_done {found : Bool} (ran : run interval start moves = some s)
    (done : s.progress id = some (.done found)) : (id, .enter) ∈ moves := by
  have entered : (id, .enter) ∈ moves ∨
      s.owner ≠ some id ∧ ∀ p, s.progress id = some p → ∃ r, p = .waiting r := by
    -- until it enters a call has no turn and waits, whatever the others do
    refine run_keeps (P := fun s => (id, .enter) ∈ moves ∨
      s.owner ≠ some id ∧ ∀ p, s.progress id = some p → ∃ r, p = .waiting r) ran ?_
      (.inr ⟨nofun, nofun⟩)
    rintro s s' other m mem moved (entered | ⟨out, waiting⟩)
    · exact .inl entered
    · by_cases same : id = other
      · subst same
        cases moved with
        | request new =>
          refine .inr ⟨out, fun p now => ?_⟩
          rw [progress_request, if_pos rfl] at now
          exact ⟨_, (Option.some.inj now).symm⟩
        | enter _ _ => exact .inl mem
        | look _ own => exact absurd own out
        | finish _ own => exact absurd own out
        | leave _ own => exact absurd own out
      · refine .inr ⟨fun own => ?_, fun p now => ?_⟩
        · cases moved with
          | request _ => exact out own
          | enter _ _ => exact same (Option.some.inj own).symm
          | look _ _ => exact out own
          | finish _ _ => exact out own
          | leave _ _ => cases own
        · exact waiting p ((moved.progress_of_ne same).symm.trans now)
  obtain entered | ⟨_, waiting⟩ := entered
  · exact entered
  · obtain ⟨r, waits⟩ := waiting _ done
    cases waits

/-- A call that gets its turn waits, and its fate depends on what was found up to then. -/
theorem fate_of_enter {before : List (Nat × Move)} {u v : Line}
    (ran : run interval start before = some u) (entered : u.step interval id .enter = some v) :
    ∃ requested, u.progress id = some (.waiting requested) ∧ (id, .request requested) ∈ before ∧
      ∀ mid w, run interval v mid = some w →
        Fate interval mid id requested u.turns.lastFound w := by
  cases steps_of_step entered with
  | enter waits free =>
    exact ⟨_, waits, requested_of_waits ran waits, fun mid w later =>
      fate_of_run (s := ⟨u.turns, some id⟩) later rfl waits⟩

/-- At most one call asks at a time. -/
theorem eq_of_asking (ran : run interval start moves = some s) {other r r' : Nat}
    (asks : s.progress id = some (.asking r)) (asks' : s.progress other = some (.asking r')) :
    id = other :=
  have ok := orderly_of_run ran orderly_start
  ok.eq_of_owner (ok.owner asks') asks

theorem done_of_finish {now : Nat} {time : Option Nat} (ran : run interval start moves = some s)
    (finish : (id, .finish now time) ∈ moves) : s.progress id = some (.done time.isSome) := by
  obtain ⟨before, after, rfl⟩ := List.append_of_mem finish
  obtain ⟨u, v, -, moved, later⟩ := run_split ran
  cases steps_of_step moved with
  | finish asks own => exact done_of_run later ((progress_answer _ _ _ _ _).trans (if_pos rfl))

/-- A call that got its turn when the time had been found meanwhile is told so at once. -/
theorem told_of_foundMeanwhile (ran : run interval start moves = some s)
    (meanwhile : FoundMeanwhile interval moves id) :
    NeverAsks interval moves id ∧
      ∀ found, s.progress id = some (.done found) → found = true := by
  obtain ⟨before, after, u, requested, last, rfl, ranBefore, made, lastFound, le⟩ := meanwhile
  obtain ⟨u', v, ranBefore', moved, later⟩ := run_split ran
  obtain rfl := Option.some.inj (ranBefore.symm.trans ranBefore')
  obtain ⟨r, waits, -, fate⟩ := fate_of_enter ranBefore moved
  obtain rfl := eq_requested ranBefore made waits
  rw [lastFound] at fate
  refine ⟨neverAsks_of_waits ranBefore moved waits ?_, ?_⟩
  · intro mid w _ ranMid r' asks
    cases fate mid w ranMid with
    | waits _ waits _ => cases waits.symm.trans asks
    | looked _ progress =>
      rw [verdict_of_le le] at progress
      cases progress.symm.trans asks
    | asked _ _ _ progress => cases progress.symm.trans asks
  · intro found done
    obtain ⟨now, -, told⟩ | ⟨_, _, -, -, now, judged⟩ := (fate after s later).eq_done done
    · rw [verdict_of_le le] at told
      exact (Progress.done.inj told).symm
    · rw [verdict_of_le le] at judged
      cases judged

/-- What a call is told. -/
theorem found_iff (ran : run interval start moves = some s) {found : Bool}
    (done : s.progress id = some (.done found)) :
    found = true ↔
      (∃ now time, (id, .finish now (some time)) ∈ moves) ∨ FoundMeanwhile interval moves id := by
  constructor
  · rintro rfl
    obtain ⟨before, after, rfl⟩ := List.append_of_mem (entered_of_done ran done)
    obtain ⟨u, v, ranBefore, moved, later⟩ := run_split ran
    obtain ⟨requested, -, made, fate⟩ := fate_of_enter ranBefore moved
    obtain ⟨now, -, told⟩ | ⟨now, time, finish, success, -⟩ := (fate after s later).eq_done done
    · have judged : verdict interval u.turns.lastFound requested now = .found := by
        cases v : verdict interval u.turns.lastFound requested now with
        | found => rfl
        | tooSoon => rw [v] at told; cases told
        | ask => rw [v] at told; cases told
      obtain ⟨last, lastFound, le⟩ := le_of_found judged
      exact .inr ⟨before, after, u, requested, last, rfl, ranBefore, made, lastFound, le⟩
    · obtain ⟨time, rfl⟩ := Option.isSome_iff_exists.1 success
      exact .inl ⟨now, time, by simp [finish]⟩
  · rintro (⟨now, time, finish⟩ | meanwhile)
    · exact (Progress.done.inj (Option.some.inj ((done_of_finish ran finish).symm.trans done))).symm
    · exact (told_of_foundMeanwhile ran meanwhile).2 found done

/-- A call that looks too soon is told that the time is not known, and does not ask. -/
theorem told_of_tooSoon {before after : List (Nat × Move)} {u : Line} {now requested last : Nat}
    (ran : run interval start (before ++ (id, .look now) :: after) = some s)
    (ranBefore : run interval start before = some u) (made : (id, .request requested) ∈ before)
    (lastFound : u.turns.lastFound = some last) (early : last < requested)
    (recent : now - last < interval) :
    s.progress id = some (.done false) ∧
      NeverAsks interval (before ++ (id, .look now) :: after) id := by
  obtain ⟨u', v, ranBefore', moved, later⟩ := run_split ran
  obtain rfl := Option.some.inj (ranBefore.symm.trans ranBefore')
  cases steps_of_step moved with
  | @look r _ waits own =>
    obtain rfl := eq_requested ranBefore made waits
    have done : Line.progress ⟨u.turns.enter interval id r now, u.owner⟩ id
        = some (.done false) := by
      rw [progress_enter, if_pos rfl, lastFound, verdict_of_recent early recent]
      rfl
    refine ⟨done_of_run later done, neverAsks_of_waits ranBefore moved waits ?_⟩
    intro mid w _ ranMid r' asks
    cases (done_of_run ranMid done).symm.trans asks

/-- A call that asks in vain changes nothing of what is known. -/
theorem clock_of_failed {now : Nat} (moved : s.step interval id (.finish now none) = some s') :
    s'.clock = s.clock := by
  cases steps_of_step moved with
  | finish asks own => rfl

/-! ### How often the time is asked for -/

/-- What is read of the clock between two moves lies between what they read. -/
theorem between_of_ordered {before mid after : List (Nat × Move)} {a b : Nat × Move} {t t' : Nat}
    (ordered : (instants (before ++ a :: mid ++ b :: after)).Pairwise (· ≤ ·))
    (first : a.2.instant? = some t) (last : b.2.instant? = some t') :
    t ≤ t' ∧ ∀ e ∈ mid, ∀ now, e.2.instant? = some now → t ≤ now ∧ now ≤ t' := by
  simp only [instants, List.append_assoc, List.filterMap_append, List.cons_append,
    List.filterMap_cons, first, last] at ordered
  obtain ⟨fromFirst, rest⟩ := List.pairwise_cons.1 (List.pairwise_append.1 ordered).2.1
  have toLast := (List.pairwise_append.1 rest).2.2
  refine ⟨fromFirst t' (by simp), fun e mem now instant => ?_⟩
  have inside : now ∈ instants mid := List.mem_filterMap.2 ⟨e, mem, instant⟩
  exact ⟨fromFirst now (List.mem_append_left _ inside), toLast now inside t' List.mem_cons_self⟩

theorem lastFound_between {found now : Nat}
    (within : ∀ e ∈ moves, ∀ t, e.2.instant? = some t → found ≤ t ∧ t ≤ now)
    (ran : run interval s moves = some s')
    (known : ∃ last, s.turns.lastFound = some last ∧ found ≤ last ∧ last ≤ now) :
    ∃ last, s'.turns.lastFound = some last ∧ found ≤ last ∧ last ≤ now := by
  refine run_keeps (P := fun s => ∃ last, s.turns.lastFound = some last ∧ found ≤ last ∧ last ≤ now)
    ran ?_ known
  rintro s s' id m mem moved ⟨last, same, bounds⟩
  cases moved with
  | request _ => exact ⟨last, same, bounds⟩
  | enter _ _ => exact ⟨last, same, bounds⟩
  | look _ _ => exact ⟨last, (lastFound_enter _ _ _).trans same, bounds⟩
  | @finish _ t time _ _ =>
    cases time with
    | none => exact ⟨last, same, bounds⟩
    | some time => exact ⟨t, rfl, within _ mem t rfl⟩
  | leave _ _ => exact ⟨last, same, bounds⟩

/-- Between the time being found and the next time somebody begins to ask, the interval passes. -/
theorem interval_le {before mid after : List (Nat × Move)} {v : Line}
    {other found time now requested : Nat}
    (ran : run interval start (before ++ (id, .finish found (some time)) :: mid
      ++ [(other, .look now)]) = some v)
    (ordered : (instants (before ++ (id, .finish found (some time)) :: mid
      ++ (other, .look now) :: after)).Pairwise (· ≤ ·))
    (asks : v.progress other = some (.asking requested)) : found + interval ≤ now := by
  obtain ⟨first, order⟩ := between_of_ordered ordered rfl rfl
  obtain ⟨u, w, ranMid, looked, rest⟩ := run_split ran
  obtain rfl := Option.some.inj rest
  obtain ⟨_, w, _, finished, ranMid⟩ := run_split ranMid
  have known : ∃ last, w.turns.lastFound = some last ∧ found ≤ last ∧ last ≤ now := by
    cases steps_of_step finished with
    | finish _ _ => exact ⟨found, rfl, Nat.le_refl _, first⟩
  obtain ⟨last, lastFound, le, le'⟩ := lastFound_between order ranMid known
  cases steps_of_step looked with
  | look waits own =>
    rw [progress_enter, if_pos rfl, lastFound] at asks
    obtain ⟨-, old⟩ := old_of_ask (Verdict.eq_ask (Option.some.inj asks))
    omega

end OnionSwarm.Clock.Line

/-
Calls for the time, one step after another.

In `Turns` a call that gets its turn looks at the same moment what was found before it, and gives
the turn back at once if it need not ask.  Here these are moves of their own, and other calls may
move in between.  It comes to the same: while a call has the turn the others can do no more than
appear and wait, so whatever is reached here is reached there (`run_turns`).

What becomes of a call is settled when it gets its turn, by what was found up to then and by the
instant at which it looks.  `Fate` says so of every later moment; it is kept by each move, of the
call itself and of any other, and so by every run.
-/
import Mathlib.Tactic.Common
import OnionSwarm.Clock.Turns
import OnionSwarm.Proofs.Runs

namespace OnionSwarm.Clock

/-! ### Verdicts -/

theorem verdict_of_le {interval last requested : Nat} (later : requested ≤ last) (now : Nat) :
    verdict interval (some last) requested now = .found := if_pos later

theorem verdict_of_recent {interval last requested now : Nat} (before : last < requested)
    (recent : now - last < interval) : verdict interval (some last) requested now = .tooSoon := by
  rw [verdict, if_neg (Nat.not_le.2 before), if_pos recent]

theorem le_of_found {interval requested now : Nat} {last : Option Nat}
    (found : verdict interval last requested now = .found) :
    ∃ l, last = some l ∧ requested ≤ l := by
  cases last with
  | none => cases found
  | some l =>
    refine ⟨l, rfl, ?_⟩
    by_contra early
    rw [verdict, if_neg early] at found
    split at found <;> cases found

theorem old_of_ask {interval last requested now : Nat}
    (asks : verdict interval (some last) requested now = .ask) :
    last < requested ∧ interval ≤ now - last := by
  rw [verdict] at asks
  split at asks
  · cases asks
  · split at asks
    · cases asks
    · omega

/-! ### Moves -/

/-- How far a call is that has looked. -/
def Verdict.progress (requested : Nat) : Verdict → Progress
  | .found => .done true
  | .tooSoon => .done false
  | .ask => .asking requested

theorem Verdict.eq_ask {v : Verdict} {requested r : Nat} (asks : v.progress requested = .asking r) :
    v = .ask := by
  cases v with
  | ask => rfl
  | found => cases asks
  | tooSoon => cases asks

theorem Verdict.progress_ne_waiting (v : Verdict) (requested r : Nat) :
    v.progress requested ≠ .waiting r := by
  cases v <;> exact nofun

/-- The call that asks has the time, or gives up. -/
def Turns.answer (t : Turns) (id now : Nat) : Option Nat → Turns
  | some time =>
    { calls := t.calls.insert id (.done true), holder := none
      reading := some ⟨now, time⟩, lastFound := some now }
  | none => { t with calls := t.calls.insert id (.done false), holder := none }

/-- All calls, and whose turn it is. -/
structure Line where
  turns : Turns
  /-- The call whose turn it is. -/
  owner : Option Nat

/-- What a call does next. -/
inductive Move where
  /-- It is made. -/
  | request (now : Nat)
  /-- It gets its turn. -/
  | enter
  /-- It looks what was found before, and begins to ask if it has to. -/
  | look (now : Nat)
  /-- It has the time, or gives up. -/
  | finish (now : Nat) (time : Option Nat)
  /-- It gives its turn back. -/
  | leave
  deriving DecidableEq, Repr

namespace Move

/-- The instant of a move, if it reads the clock. -/
def instant? : Move → Option Nat
  | request now => some now
  | enter => none
  | look now => some now
  | finish now _ => some now
  | leave => none

/-- What a move is to those who do not see the turn change hands. -/
def event? (id : Nat) : Move → Option Event
  | request now => some (.request id now)
  | enter => none
  | look now => some (.turn id now)
  | finish now time => some (.finish now time)
  | leave => none

end Move

namespace Line

/-- Nobody has called yet. -/
def start : Line := ⟨.start, none⟩

/-- How far a call has come. -/
def progress (s : Line) (id : Nat) : Option Progress := s.turns.calls.get? id

/-- What is known of the network time. -/
def clock (s : Line) : Option Reading × Option Nat := (s.turns.reading, s.turns.lastFound)

/-- What a move leads to; nothing if the call cannot make it. -/
def step (interval : Nat) (s : Line) (id : Nat) (m : Move) : Option Line :=
  match m, s.progress id with
  | .request now, none =>
    some { s with turns := { s.turns with calls := s.turns.calls.insert id (.waiting now) } }
  | .enter, some (.waiting _) => if s.owner = none then some { s with owner := some id } else none
  | .look now, some (.waiting requested) =>
    if s.owner = some id then some { s with turns := s.turns.enter interval id requested now }
    else none
  | .finish now time, some (.asking _) =>
    if s.owner = some id then some { s with turns := s.turns.answer id now time } else none
  | .leave, some (.done _) => if s.owner = some id then some { s with owner := none } else none
  | _, _ => none

/-- What a sequence of moves leads to; nothing if one of them cannot be made. -/
def run (interval : Nat) (s : Line) : List (Nat × Move) → Option Line
  | [] => some s
  | (id, m) :: rest => (s.step interval id m).bind fun s => run interval s rest

/-- All that the calls of a run read of the clock. -/
def instants (moves : List (Nat × Move)) : List Nat := moves.filterMap fun e => e.2.instant?

/-- A run as it is to those who do not see the turn change hands. -/
def events (moves : List (Nat × Move)) : List Event := moves.filterMap fun e => e.2.event? e.1

theorem run_eq_foldlM (interval : Nat) (s : Line) (moves : List (Nat × Move)) :
    run interval s moves = moves.foldlM (fun s e => s.step interval e.1 e.2) s := by
  induction moves generalizing s with
  | nil => rfl
  | cons m rest ih =>
    rw [run, List.foldlM_cons]
    exact congrArg _ (funext fun s => ih s)

theorem run_append (interval : Nat) (s : Line) (first next : List (Nat × Move)) :
    run interval s (first ++ next)
      = (run interval s first).bind fun s => run interval s next := by
  simp only [run_eq_foldlM, List.foldlM_append]
  rfl

/-- All that a call can do. -/
inductive Steps (interval : Nat) (s : Line) (id : Nat) : Move → Line → Prop
  | request {now : Nat} (new : s.progress id = none) :
    Steps interval s id (.request now)
      { s with turns := { s.turns with calls := s.turns.calls.insert id (.waiting now) } }
  | enter {requested : Nat} (waits : s.progress id = some (.waiting requested))
    (free : s.owner = none) : Steps interval s id .enter { s with owner := some id }
  | look {requested now : Nat} (waits : s.progress id = some (.waiting requested))
    (own : s.owner = some id) :
    Steps interval s id (.look now) { s with turns := s.turns.enter interval id requested now }
  | finish {requested now : Nat} {time : Option Nat}
    (asks : s.progress id = some (.asking requested)) (own : s.owner = some id) :
    Steps interval s id (.finish now time) { s with turns := s.turns.answer id now time }
  | leave {found : Bool} (done : s.progress id = some (.done found)) (own : s.owner = some id) :
    Steps interval s id .leave { s with owner := none }

variable {interval : Nat} {s s' : Line} {id : Nat} {m : Move} {moves : List (Nat × Move)}

theorem steps_of_step (moved : s.step interval id m = some s') : Steps interval s id m s' := by
  unfold step at moved
  -- the moves in the order of the definition, each with its guards
  split at moved
  · rename_i new
    obtain rfl := Option.some.inj moved
    exact .request new
  · rename_i waits
    split at moved
    · rename_i free
      obtain rfl := Option.some.inj moved
      exact .enter waits free
    · cases moved
  · rename_i waits
    split at moved
    · rename_i own
      obtain rfl := Option.some.inj moved
      exact .look waits own
    · cases moved
  · rename_i asks
    split at moved
    · rename_i own
      obtain rfl := Option.some.inj moved
      exact .finish asks own
    · cases moved
  · rename_i done
    split at moved
    · rename_i own
      obtain rfl := Option.some.inj moved
      exact .leave done own
    · cases moved
  · cases moved

theorem step_look {requested : Nat} (waits : s.progress id = some (.waiting requested))
    (own : s.owner = some id) (now : Nat) :
    s.step interval id (.look now)
      = some { s with turns := s.turns.enter interval id requested now } := by
  simp only [step, waits, own, if_true]

theorem step_finish {requested : Nat} (asks : s.progress id = some (.asking requested))
    (own : s.owner = some id) (now : Nat) (time : Option Nat) :
    s.step interval id (.finish now time)
      = some { s with turns := s.turns.answer id now time } := by
  simp only [step, asks, own, if_true]

/-- What every move keeps is kept by the run. -/
theorem run_keeps {P : Line → Prop} (ran : run interval s moves = some s')
    (kept : ∀ {s s' id m}, (id, m) ∈ moves → Steps interval s id m s' → P s → P s')
    (holds : P s) : P s' := by
  rw [run_eq_foldlM] at ran
  exact Runs.keeps ran (fun mem moved => kept mem (steps_of_step moved)) holds

/-- A run up to a move, the move, and the run after it. -/
theorem run_split {before after : List (Nat × Move)}
    (ran : run interval s (before ++ (id, m) :: after) = some s') :
    ∃ u v, run interval s before = some u ∧ u.step interval id m = some v ∧
      run interval v after = some s' := by
  simp only [run_eq_foldlM] at ran ⊢
  exact Runs.split ran

/-! ### What one move does -/

theorem progress_request (s : Line) (now other : Nat) :
    progress { s with
        turns := { s.turns with calls := s.turns.calls.insert id (.waiting now) } } other
      = if other = id then some (.waiting now) else s.progress other :=
  Table.get?_insert _ _ _ _

theorem progress_enter (t : Turns) (owner : Option Nat) (requested now other : Nat) :
    progress ⟨t.enter interval id requested now, owner⟩ other
      = if other = id then some ((verdict interval t.lastFound requested now).progress requested)
        else t.calls.get? other := by
  unfold progress Turns.enter
  cases verdict interval t.lastFound requested now <;> exact Table.get?_insert _ _ _ _

theorem clock_enter (s : Line) (requested now : Nat) :
    clock { s with turns := s.turns.enter interval id requested now } = s.clock := by
  unfold clock Turns.enter
  cases verdict interval s.turns.lastFound requested now <;> rfl

theorem lastFound_enter (t : Turns) (requested now : Nat) :
    (t.enter interval id requested now).lastFound = t.lastFound := by
  unfold Turns.enter
  cases verdict interval t.lastFound requested now <;> rfl

theorem holder_enter (t : Turns) {requested now : Nat}
    (other : verdict interval t.lastFound requested now ≠ .ask) :
    (t.enter interval id requested now).holder = t.holder := by
  unfold Turns.enter
  cases judged : verdict interval t.lastFound requested now with
  | ask => exact absurd judged other
  | found => rfl
  | tooSoon => rfl

theorem progress_answer (t : Turns) (owner : Option Nat) (now : Nat) (time : Option Nat)
    (other : Nat) :
    progress ⟨t.answer id now time, owner⟩ other
      = if other = id then some (.done time.isSome) else t.calls.get? other := by
  cases time <;> exact Table.get?_insert _ _ _ _

/-- Nobody moves another call on. -/
theorem Steps.progress_of_ne (moved : Steps interval s id m s') {other : Nat} (ne : other ≠ id) :
    s'.progress other = s.progress other := by
  cases moved with
  | request new => exact (progress_request _ _ _).trans (if_neg ne)
  | enter waits free => rfl
  | look waits own => exact (progress_enter _ _ _ _ _).trans (if_neg ne)
  | finish asks own => exact (progress_answer _ _ _ _ _).trans (if_neg ne)
  | leave done own => rfl

/-- While a call has the turn, the others find out nothing. -/
theorem Steps.of_owner (moved : Steps interval s id m s') {other : Nat}
    (owned : s.owner = some other) (ne : other ≠ id) :
    s'.owner = some other ∧ s'.turns.lastFound = s.turns.lastFound := by
  have mine : s.owner ≠ some id := fun own => ne (Option.some.inj (owned.symm.trans own))
  cases moved with
  | request new => exact ⟨owned, rfl⟩
  | enter waits free =>
    rw [free] at owned
    cases owned
  | look waits own => exact absurd own mine
  | finish asks own => exact absurd own mine
  | leave done own => exact absurd own mine

/-- A call waits only if it waited before, or has just been made. -/
theorem Steps.waits_before (moved : Steps interval s id m s') {other requested : Nat}
    (waits : s'.progress other = some (.waiting requested)) :
    s.progress other = some (.waiting requested) ∨
      other = id ∧ m = .request requested ∧ s.progress other = none := by
  by_cases same : other = id
  · subst same
    cases moved with
    | request new =>
      rw [progress_request, if_pos rfl] at waits
      obtain rfl := Progress.waiting.inj (Option.some.inj waits)
      exact .inr ⟨rfl, rfl, new⟩
    | enter _ _ => exact .inl waits
    | look _ _ =>
      rw [progress_enter, if_pos rfl] at waits
      exact absurd (Option.some.inj waits) (Verdict.progress_ne_waiting _ _ _)
    | finish _ _ =>
      rw [progress_answer, if_pos rfl] at waits
      cases waits
    | leave _ _ => exact .inl waits
  · exact .inl ((moved.progress_of_ne same).symm.trans waits)

/-- A call that was made is not forgotten. -/
theorem Steps.known (moved : Steps interval s id m s') {other : Nat}
    (known : s.progress other ≠ none) : s'.progress other ≠ none := by
  by_cases same : other = id
  · subst same
    cases moved with
    | request new => exact absurd new known
    | enter _ _ => exact known
    | look _ _ =>
      rw [progress_enter, if_pos rfl]
      exact nofun
    | finish _ _ =>
      rw [progress_answer, if_pos rfl]
      exact nofun
    | leave _ _ => exact known
  · rwa [moved.progress_of_ne same]

/-- A call that is done stays as it is. -/
theorem Steps.done (moved : Steps interval s id m s') {other : Nat} {found : Bool}
    (done : s.progress other = some (.done found)) : s'.progress other = some (.done found) := by
  by_cases same : other = id
  · subst same
    cases moved with
    | request new => cases new.symm.trans done
    | enter waits free => exact done
    | look waits own => cases waits.symm.trans done
    | finish asks own => cases asks.symm.trans done
    | leave _ own => exact done
  · rw [moved.progress_of_ne same, done]

theorem done_of_run (ran : run interval s moves = some s') {found : Bool}
    (done : s.progress id = some (.done found)) : s'.progress id = some (.done found) :=
  run_keeps ran (fun _ moved done => moved.done done) done

/-- A call that was made waits later on only if it still does. -/
theorem waits_before_of_run {requested : Nat} (ran : run interval s moves = some s')
    (known : s.progress id ≠ none) (waits : s'.progress id = some (.waiting requested)) :
    s.progress id = some (.waiting requested) := by
  by_contra gone
  refine (run_keeps (P := fun s => s.progress id ≠ none ∧
    s.progress id ≠ some (.waiting requested)) ran ?_ ⟨known, gone⟩).2 waits
  rintro s s' other m - moved ⟨known, gone⟩
  refine ⟨moved.known known, fun waits => ?_⟩
  obtain waited | ⟨-, -, new⟩ := moved.waits_before waits
  · exact gone waited
  · exact known new

/-! ### Who asks -/

/-- Who asks has the turn, and is known to ask. -/
structure Orderly (s : Line) : Prop where
  owner : ∀ {id requested}, s.progress id = some (.asking requested) → s.owner = some id
  holder : ∀ {id requested}, s.progress id = some (.asking requested) → s.turns.holder = some id
  asks : ∀ {id}, s.turns.holder = some id → ∃ requested, s.progress id = some (.asking requested)

/-- As long as nobody asks, all is in order. -/
theorem orderly_of_quiet (free : s.turns.holder = none)
    (quiet : ∀ id requested, s.progress id ≠ some (.asking requested)) : Orderly s where
  owner asks := (quiet _ _ asks).elim
  holder asks := (quiet _ _ asks).elim
  asks held := by
    rw [free] at held
    cases held

theorem orderly_start : Orderly start := orderly_of_quiet rfl nofun

theorem Orderly.eq_of_owner (ok : Orderly s) {other requested : Nat} (own : s.owner = some id)
    (asks : s.progress other = some (.asking requested)) : other = id :=
  Option.some.inj ((ok.owner asks).symm.trans own)

/-- While a call has the turn and does not ask, nobody does. -/
theorem Orderly.quiet (ok : Orderly s) (own : s.owner = some id)
    (mine : ∀ requested, s.progress id ≠ some (.asking requested)) (other requested : Nat) :
    s.progress other ≠ some (.asking requested) := by
  intro asks
  obtain rfl := ok.eq_of_owner own asks
  exact mine requested asks

theorem Orderly.holder_eq_none (ok : Orderly s) (own : s.owner = some id)
    (mine : ∀ requested, s.progress id ≠ some (.asking requested)) : s.turns.holder = none := by
  cases held : s.turns.holder with
  | none => rfl
  | some other =>
    obtain ⟨requested, asks⟩ := ok.asks held
    exact absurd asks (ok.quiet own mine other requested)

theorem orderly_enter (ok : Orderly s) {requested : Nat} (now : Nat)
    (waits : s.progress id = some (.waiting requested)) (own : s.owner = some id) :
    Orderly { s with turns := s.turns.enter interval id requested now } := by
  have mine (r : Nat) : s.progress id ≠ some (.asking r) := by simp [waits]
  have progress (other : Nat) :
      Line.progress ⟨s.turns.enter interval id requested now, s.owner⟩ other
        = if other = id then
            some ((verdict interval s.turns.lastFound requested now).progress requested)
          else s.progress other := progress_enter _ _ _ _ _
  -- a call that has to ask is the only one that does, and any other verdict ends the call
  by_cases judged : verdict interval s.turns.lastFound requested now = .ask
  · have held : (s.turns.enter interval id requested now).holder = some id := by
      rw [Turns.enter, judged]
    have only {other r : Nat}
        (asks : Line.progress ⟨s.turns.enter interval id requested now, s.owner⟩ other
          = some (.asking r)) : other = id := by
      by_contra ne
      rw [progress, if_neg ne] at asks
      exact ok.quiet own mine other r asks
    constructor
    · intro other r asks
      rw [only asks]
      exact own
    · intro other r asks
      rw [only asks]
      exact held
    · intro other holds
      obtain rfl := Option.some.inj (held.symm.trans holds)
      exact ⟨requested, by rw [progress, if_pos rfl, judged]; rfl⟩
  · refine orderly_of_quiet ?_ fun other r => ?_
    · exact (holder_enter _ judged).trans (ok.holder_eq_none own mine)
    · rw [progress]
      by_cases same : other = id
      · rw [if_pos same]
        exact fun asks => judged (Verdict.eq_ask (Option.some.inj asks))
      · rw [if_neg same]
        exact ok.quiet own mine other r

theorem Steps.orderly (moved : Steps interval s id m s') (ok : Orderly s) : Orderly s' := by
  -- a call begins to ask when it looks, and it looks in its turn only
  cases moved with
  | @request now new =>
    have asking {other requested : Nat} :
        (if other = id then some (.waiting now) else s.progress other) = some (.asking requested) ↔
          s.progress other = some (.asking requested) := by
      by_cases same : other = id
      · subst same
        simp [new]
      · rw [if_neg same]
    simp only [← progress_request] at asking
    refine ⟨fun asks => ok.owner (asking.1 asks), fun asks => ok.holder (asking.1 asks), ?_⟩
    intro other held
    obtain ⟨requested, asks⟩ := ok.asks held
    exact ⟨requested, asking.2 asks⟩
  | enter waits free =>
    refine ⟨fun asks => ?_, ok.holder, ok.asks⟩
    cases free.symm.trans (ok.owner asks)
  | look waits own => exact orderly_enter ok _ waits own
  | @finish requested now time asks own =>
    refine orderly_of_quiet (by cases time <;> rfl) ?_
    intro other r
    rw [progress_answer]
    by_cases same : other = id
    · simp [same]
    · rw [if_neg same]
      exact fun asks => same (ok.eq_of_owner own asks)
  | leave done own =>
    have mine (r : Nat) : s.progress id ≠ some (.asking r) := by simp [done]
    exact orderly_of_quiet (ok.holder_eq_none own mine) (ok.quiet own mine)

theorem orderly_of_run (ran : run interval s moves = some s') (ok : Orderly s) : Orderly s' :=
  run_keeps ran (fun _ moved ok => moved.orderly ok) ok

/-- A run is one of the turns, seen without their change of hands. -/
theorem run_turns (ran : run interval s moves = some s') (ok : Orderly s) :
    s.turns.run interval (events moves) = some s'.turns := by
  induction moves generalizing s with
  | nil =>
    obtain rfl := Option.some.inj ran
    rfl
  | cons first rest ih =>
    obtain ⟨id, m⟩ := first
    obtain ⟨between, moved, ran⟩ := Option.bind_eq_some_iff.1 ran
    have steps := steps_of_step moved
    have later := ih ran (steps.orderly ok)
    -- to get a turn and to give it up are no events of the turns, and all other moves are
    cases steps with
    | request new =>
      have absent : s.turns.calls.contains id = false := congrArg Option.isSome new
      simp only [events, List.filterMap_cons, Move.event?, Turns.run, Turns.step, absent]
      exact later
    | enter waits free => exact later
    | look waits own =>
      have free := ok.holder_eq_none own fun r => by simp [waits]
      have waits : s.turns.calls.get? id = _ := waits
      simp only [events, List.filterMap_cons, Move.event?, Turns.run, Turns.step, free, waits]
      exact later
    | @finish requested now time asks own =>
      have held := ok.holder asks
      have same : s.turns.step interval (.finish now time) = some (s.turns.answer id now time) := by
        cases time <;> simp only [Turns.step, held, Turns.answer]
      simp only [events, List.filterMap_cons, Move.event?, Turns.run, same]
      exact later
    | leave done own => exact later

/-! ### What becomes of a call -/

/-- What a call has come to that had its turn when something was found last, or nothing yet. -/
inductive Fate (interval : Nat) (moves : List (Nat × Move)) (id requested : Nat)
    (last : Option Nat) (s : Line) : Prop
  /-- It has not looked yet. -/
  | waits (own : s.owner = some id) (waits : s.progress id = some (.waiting requested))
    (same : s.turns.lastFound = last)
  /-- It has looked, and has either what it wanted or to ask. -/
  | looked {now : Nat} (look : (id, .look now) ∈ moves)
    (progress : s.progress id = some ((verdict interval last requested now).progress requested))
  /-- It has asked. -/
  | asked {now now' : Nat} {time : Option Nat} (look : (id, .look now) ∈ moves)
    (judged : verdict interval last requested now = .ask) (finish : (id, .finish now' time) ∈ moves)
    (progress : s.progress id = some (.done time.isSome))

/-- The call's own moves. -/
theorem Steps.fate_self {requested : Nat} {last : Option Nat} (mem : (id, m) ∈ moves)
    (moved : Steps interval s id m s') (fate : Fate interval moves id requested last s) :
    Fate interval moves id requested last s' := by
  -- as far as the call has come, only some moves can be its own
  cases fate with
  | waits own waits found =>
    cases moved with
    | request new => cases new.symm.trans waits
    | enter _ free => cases free.symm.trans own
    | @look r now waits' _ =>
      obtain rfl := Progress.waiting.inj (Option.some.inj (waits.symm.trans waits'))
      subst found
      exact .looked mem ((progress_enter _ _ _ _ _).trans (if_pos rfl))
    | finish asks _ => cases asks.symm.trans waits
    | leave done _ => cases done.symm.trans waits
  | @looked now look progress =>
    cases moved with
    | request new => cases new.symm.trans progress
    | enter waits _ =>
      exact absurd (Option.some.inj (progress.symm.trans waits)) (Verdict.progress_ne_waiting _ _ _)
    | look waits _ =>
      exact absurd (Option.some.inj (progress.symm.trans waits)) (Verdict.progress_ne_waiting _ _ _)
    | finish asks _ =>
      have judged := Verdict.eq_ask (Option.some.inj (progress.symm.trans asks))
      exact .asked look judged mem ((progress_answer _ _ _ _ _).trans (if_pos rfl))
    | leave _ _ => exact .looked look progress
  | asked look judged finish progress =>
    exact .asked look judged finish (moved.done progress)

/-- A fate is a fate after every move. -/
theorem Steps.fate {requested : Nat} {last : Option Nat} {other : Nat} (mem : (other, m) ∈ moves)
    (moved : Steps interval s other m s') (fate : Fate interval moves id requested last s) :
    Fate interval moves id requested last s' := by
  by_cases same : id = other
  · subst same
    exact moved.fate_self mem fate
  · have kept := moved.progress_of_ne same
    cases fate with
    | waits own waits found =>
      obtain ⟨owner, lastFound⟩ := moved.of_owner own same
      exact .waits owner (kept.trans waits) (lastFound.trans found)
    | looked look progress => exact .looked look (kept.trans progress)
    | asked look judged finish progress => exact .asked look judged finish (kept.trans progress)

theorem fate_of_run {requested : Nat} (ran : run interval s moves = some s')
    (own : s.owner = some id) (waits : s.progress id = some (.waiting requested)) :
    Fate interval moves id requested s.turns.lastFound s' :=
  run_keeps ran (fun mem moved fate => moved.fate mem fate) (.waits own waits rfl)

theorem Fate.eq_done {requested : Nat} {last : Option Nat} {found : Bool}
    (fate : Fate interval moves id requested last s)
    (done : s.progress id = some (.done found)) :
    (∃ now, (id, .look now) ∈ moves ∧
        (verdict interval last requested now).progress requested = .done found) ∨
      ∃ now time, (id, .finish now time) ∈ moves ∧ time.isSome = found ∧
        ∃ before, verdict interval last requested before = .ask := by
  cases fate with
  | waits _ waits _ => cases waits.symm.trans done
  | looked look progress => exact .inl ⟨_, look, Option.some.inj (progress.symm.trans done)⟩
  | asked look judged finish progress =>
    exact .inr ⟨_, _, finish, Progress.done.inj (Option.some.inj (progress.symm.trans done)),
      _, judged⟩

end Line
end OnionSwarm.Clock

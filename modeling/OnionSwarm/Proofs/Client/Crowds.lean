/-
Several calls for the pool at once.

A call looks at the pool, and if it is too small the call waits for its turn.  In its turn it looks
once more, because the pool may have been filled while it waited; only then does it ask a seed.  In
between other calls may move, some of which want the pool asked for however large it is; anybody may
replace the pool, and a call may be given up by its caller.

Nothing in the moves themselves says that only one call asks at a time: a call may get its turn when
nobody has it, and that is all.  But whoever is past this point has the turn (`Orderly`).  And as long
as calls want no more than a pool that is large enough, whoever is about to ask has good reason to
(`Modest`), so a pool that has become large enough stays so, and nobody asks any more.
-/
import OnionSwarm.Proofs.Client.Refills
import OnionSwarm.Proofs.Runs

namespace OnionSwarm.SeedSource

variable {ω : Type}

/-- How far a call has come. -/
inductive Stage where
  /-- It waits for its turn, and may want the pool asked for regardless of its size. -/
  | waits (regardless : Bool)
  /-- It has its turn. -/
  | turn (regardless : Bool)
  /-- It is about to ask a seed. -/
  | due
  /-- It has asked a seed. -/
  | asks (seed : String)
  | done (answer : Except DirectoryFailure (List Node))
  /-- Its caller has given it up. -/
  | gone
  deriving DecidableEq

namespace Stage

/-- Is a call past the point where it has its turn, and not yet done? -/
def inTurn : Stage → Bool
  | turn _ => true
  | due => true
  | asks _ => true
  | _ => false

/-- Does the call want the pool asked for regardless of its size? -/
def insists : Stage → Bool
  | waits regardless => regardless
  | turn regardless => regardless
  | _ => false

/-- Will the call ask, or has it asked and not heard yet? -/
def refills : Stage → Bool
  | due => true
  | asks _ => true
  | _ => false

theorem inTurn_of_refills {stage : Stage} (refills : stage.refills = true) :
    stage.inTurn = true := by
  cases stage with
  | due => rfl
  | asks seed => rfl
  | _ => cases refills

/-- Is it too late for the call to ask? -/
def past : Stage → Bool
  | asks _ => true
  | done _ => true
  | gone => true
  | _ => false

/-- Is the call still going on? -/
def going : Stage → Bool
  | done _ => false
  | gone => false
  | _ => true

end Stage

/-- All calls, and whose turn it is. -/
structure Crowd where
  store : Store
  calls : Table Nat Stage
  /-- The call whose turn it is. -/
  owner : Option Nat

/-- What a call does next. -/
inductive Move where
  /-- It is made, and looks at the pool. -/
  | ensure
  /-- It is made, and wants the pool asked for. -/
  | refresh
  /-- It gets its turn. -/
  | enter
  /-- It looks again. -/
  | look
  /-- It picks a seed, if there is one, and asks it. -/
  | ask (seed : Option String)
  /-- It has the answer. -/
  | hear (answer : Except HttpFailure HttpReply)
  /-- It gives its turn back. -/
  | leave
  /-- It is given up, and with it the turn, if it has it. -/
  | quit
  /-- Somebody replaces the pool, without having the turn. -/
  | replace (nodes : List Node)

namespace Move

/-- The seed that is asked. -/
def asked? : Move → Option String
  | ask seed => seed
  | _ => none

/-- Does the call pick a seed? -/
def isAsk : Move → Bool
  | ask _ => true
  | _ => false

/-- Can the move change the pool? -/
def fills : Move → Bool
  | hear _ => true
  | replace _ => true
  | _ => false

/-- Is this a move of a call that wants no more than a pool that is large enough? -/
def isModest : Move → Bool
  | refresh => false
  | replace _ => false
  | _ => true

end Move

/-- The store once an answer was heard. -/
def fill (store : Store) : Except DirectoryFailure (List Node) → Store
  | .ok nodes => store.setPool nodes
  | .error _ => store

namespace Crowd

/-- Nobody has called yet. -/
def start (store : Store) : Crowd := ⟨store, .empty, none⟩

/-- How far a call has come. -/
def stage (s : Crowd) (id : Nat) : Option Stage := s.calls.get? id

/-- A call has come so far. -/
def put (s : Crowd) (id : Nat) (stage : Stage) : Crowd :=
  { s with calls := s.calls.insert id stage }

/-- A call has come so far, and with that the turn changes hands. -/
def pass (s : Crowd) (id : Nat) (stage : Stage) (owner : Option Nat) : Crowd :=
  { s.put id stage with owner }

/-- A call has heard what a seed's answer means. -/
def hear (s : Crowd) (id : Nat) (read : Except DirectoryFailure (List Node)) : Crowd :=
  { s with store := fill s.store read }.put id (.done read)

variable (source : SeedSource ω)

/-- The pool is large enough. -/
def Viable (s : Crowd) : Prop := source.minPool ≤ s.store.viewPool.length

instance (s : Crowd) : Decidable (s.Viable source) := inferInstanceAs (Decidable (_ ≤ _))

/-- A call looks at the pool, and has it if it is large enough. -/
def look (s : Crowd) (id : Nat) (otherwise : Stage) : Crowd :=
  { s with store := s.store.notePool }.put id
    (if s.Viable source then .done (.ok s.store.viewPool) else otherwise)

/-- What a move leads to; nothing if the call cannot make it. -/
def step (s : Crowd) (id : Nat) (m : Move) : Option Crowd :=
  match m, s.stage id with
  | .ensure, none => some (s.look source id (.waits false))
  | .refresh, none => some (s.put id (.waits true))
  | .enter, some (.waits regardless) =>
    if s.owner = none then some (s.pass id (.turn regardless) (some id)) else none
  | .look, some (.turn regardless) =>
    some (if regardless then s.put id .due else s.look source id .due)
  | .ask none, some .due =>
    if source.seeds = [] then some (s.put id (.done (.error .noSeeds))) else none
  | .ask (some seed), some .due =>
    if seed ∈ source.seeds then some (s.put id (.asks seed)) else none
  | .hear answer, some (.asks seed) =>
    some (s.hear id (readAnswer seed answer))
  | .leave, some (.done _) => if s.owner = some id then some { s with owner := none } else none
  | .quit, some stage =>
    if stage.going then
      some (s.pass id .gone (if s.owner = some id then none else s.owner))
    else none
  | .replace nodes, _ => some { s with store := s.store.setPool nodes }
  | _, _ => none

/-- What a sequence of moves leads to; nothing if one of them cannot be made. -/
def run (s : Crowd) (moves : List (Nat × Move)) : Option Crowd :=
  moves.foldlM (fun s e => s.step source e.1 e.2) s

variable {source}

/-- All that a call can do. -/
inductive Steps (source : SeedSource ω) (s : Crowd) (id : Nat) : Move → Crowd → Prop
  | ensure (new : s.stage id = none) : Steps source s id .ensure (s.look source id (.waits false))
  | refresh (new : s.stage id = none) : Steps source s id .refresh (s.put id (.waits true))
  | enter {regardless : Bool} (waits : s.stage id = some (.waits regardless))
    (free : s.owner = none) :
    Steps source s id .enter (s.pass id (.turn regardless) (some id))
  | look (turn : s.stage id = some (.turn false)) :
    Steps source s id .look (s.look source id .due)
  | insist (turn : s.stage id = some (.turn true)) : Steps source s id .look (s.put id .due)
  | noSeeds (due : s.stage id = some .due) (seedless : source.seeds = []) :
    Steps source s id (.ask none) (s.put id (.done (.error .noSeeds)))
  | ask {seed : String} (due : s.stage id = some .due) (configured : seed ∈ source.seeds) :
    Steps source s id (.ask (some seed)) (s.put id (.asks seed))
  | hear {seed : String} (answer : Except HttpFailure HttpReply)
    (asks : s.stage id = some (.asks seed)) :
    Steps source s id (.hear answer) (s.hear id (readAnswer seed answer))
  | leave {answer : Except DirectoryFailure (List Node)} (done : s.stage id = some (.done answer))
    (own : s.owner = some id) : Steps source s id .leave { s with owner := none }
  | quit {stage : Stage} (had : s.stage id = some stage) (going : stage.going = true) :
    Steps source s id .quit (s.pass id .gone (if s.owner = some id then none else s.owner))
  | replace (nodes : List Node) :
    Steps source s id (.replace nodes) { s with store := s.store.setPool nodes }

variable {s s' : Crowd} {id : Nat} {m : Move} {moves : List (Nat × Move)}

theorem steps_of_step (moved : s.step source id m = some s') : Steps source s id m s' := by
  unfold step at moved
  -- the moves in the order of the definition, each with its guards
  split at moved
  · rename_i new
    obtain rfl := Option.some.inj moved
    exact .ensure new
  · rename_i new
    obtain rfl := Option.some.inj moved
    exact .refresh new
  · rename_i waits
    split at moved
    · rename_i free
      obtain rfl := Option.some.inj moved
      exact .enter waits free
    · cases moved
  · rename_i regardless turn
    obtain rfl := Option.some.inj moved
    cases regardless with
    | false => exact .look turn
    | true => exact .insist turn
  · rename_i due
    split at moved
    · rename_i seedless
      obtain rfl := Option.some.inj moved
      exact .noSeeds due seedless
    · cases moved
  · rename_i due
    split at moved
    · rename_i configured
      obtain rfl := Option.some.inj moved
      exact .ask due configured
    · cases moved
  · rename_i asks
    obtain rfl := Option.some.inj moved
    exact .hear _ asks
  · rename_i done
    split at moved
    · rename_i own
      obtain rfl := Option.some.inj moved
      exact .leave done own
    · cases moved
  · rename_i had
    split at moved
    · rename_i going
      obtain rfl := Option.some.inj moved
      exact .quit had going
    · cases moved
  · obtain rfl := Option.some.inj moved
    exact .replace _
  · cases moved

/-- What every move keeps is kept by the run. -/
theorem run_keeps {P : Crowd → Prop} (ran : run source s moves = some s')
    (kept : ∀ {s s' id m}, (id, m) ∈ moves → Steps source s id m s' → P s → P s')
    (holds : P s) : P s' :=
  Runs.keeps ran (fun mem moved => kept mem (steps_of_step moved)) holds

theorem run_cons {v : Crowd} (moved : s.step source id m = some v) (rest : List (Nat × Move)) :
    run source s ((id, m) :: rest) = run source v rest := by
  rw [run, List.foldlM_cons, moved]
  rfl

theorem run_append {v : Crowd} {first : List (Nat × Move)} (ran : run source s first = some v)
    (next : List (Nat × Move)) : run source s (first ++ next) = run source v next := by
  rw [run] at ran
  rw [run, List.foldlM_append, ran]
  rfl

/-! ### What one move does -/

theorem stage_put (s : Crowd) (id other : Nat) (stage : Stage) :
    (s.put id stage).stage other = if other = id then some stage else s.stage other :=
  Table.get?_insert _ _ _ _

@[simp] theorem stage_put_self (s : Crowd) (id : Nat) (stage : Stage) :
    (s.put id stage).stage id = some stage := by
  simp [stage_put]

theorem stage_pass (s : Crowd) (id other : Nat) (stage : Stage) (owner : Option Nat) :
    (s.pass id stage owner).stage other = if other = id then some stage else s.stage other :=
  stage_put _ _ _ _

@[simp] theorem stage_pass_self (s : Crowd) (id : Nat) (stage : Stage) (owner : Option Nat) :
    (s.pass id stage owner).stage id = some stage := by
  simp [stage_pass]

theorem stage_hear (s : Crowd) (id other : Nat) (read : Except DirectoryFailure (List Node)) :
    (s.hear id read).stage other = if other = id then some (.done read) else s.stage other :=
  stage_put _ _ _ _

@[simp] theorem stage_hear_self (s : Crowd) (id : Nat)
    (read : Except DirectoryFailure (List Node)) :
    (s.hear id read).stage id = some (.done read) := by
  simp [stage_hear]

theorem stage_look (s : Crowd) (id other : Nat) (otherwise : Stage) :
    (s.look source id otherwise).stage other
      = if other = id then
          some (if s.Viable source then .done (.ok s.store.viewPool) else otherwise)
        else s.stage other :=
  stage_put _ _ _ _

theorem stage_look_of_viable {s : Crowd} (viable : s.Viable source) (id : Nat)
    (otherwise : Stage) :
    (s.look source id otherwise).stage id = some (.done (.ok s.store.viewPool)) := by
  simp [stage_look, viable]

theorem stage_look_of_small {s : Crowd} (small : ¬ s.Viable source) (id : Nat)
    (otherwise : Stage) : (s.look source id otherwise).stage id = some otherwise := by
  simp [stage_look, small]

/-- Nobody moves another call on. -/
theorem Steps.stage_of_ne (moved : Steps source s id m s') {other : Nat} (ne : other ≠ id) :
    s'.stage other = s.stage other := by
  cases moved with
  | ensure new => exact (stage_look s id other _).trans (if_neg ne)
  | refresh new => exact (stage_put s id other _).trans (if_neg ne)
  | enter waits free => exact (stage_pass s id other _ _).trans (if_neg ne)
  | look turn => exact (stage_look s id other _).trans (if_neg ne)
  | insist turn => exact (stage_put s id other _).trans (if_neg ne)
  | noSeeds due seedless => exact (stage_put s id other _).trans (if_neg ne)
  | ask due configured => exact (stage_put s id other _).trans (if_neg ne)
  | hear answer asks => exact (stage_hear s id other _).trans (if_neg ne)
  | leave done own => rfl
  | quit had going => exact (stage_pass s id other _ _).trans (if_neg ne)
  | replace nodes => rfl

/-- The other calls keep the turn if they have it. -/
theorem Steps.owner_of_ne (moved : Steps source s id m s') {other : Nat} (ne : other ≠ id)
    (owned : s.owner = some other) : s'.owner = some other := by
  have mine : s.owner ≠ some id := by
    intro own
    exact ne (Option.some.inj (owned.symm.trans own))
  cases moved with
  | ensure new => exact owned
  | refresh new => exact owned
  | enter waits free =>
    rw [free] at owned
    cases owned
  | look turn => exact owned
  | insist turn => exact owned
  | noSeeds due seedless => exact owned
  | ask due configured => exact owned
  | hear answer asks => exact owned
  | leave done own => exact absurd own mine
  | quit had going => exact (if_neg mine).trans owned
  | replace nodes => exact owned

/-- Only an answer, or somebody outside, changes the pool. -/
theorem Steps.viewPool_eq (moved : Steps source s id m s') (idle : m.fills = false) :
    s'.store.viewPool = s.store.viewPool := by
  cases moved with
  | hear answer asks => cases idle
  | replace nodes => cases idle
  | _ => rfl

/-- A failure leaves the pool and storage as they were. -/
theorem Steps.untouched_of_error (moved : Steps source s id m s') (own : ∀ nodes, m ≠ .replace nodes)
    {e : DirectoryFailure} (failed : s'.stage id = some (.done (.error e))) :
    Untouched s.store s'.store := by
  cases moved with
  | @hear seed answer asks =>
    rw [stage_hear_self] at failed
    have read := Stage.done.inj (Option.some.inj failed)
    have same : fill s.store (readAnswer seed answer) = s.store := by
      rw [read]
      rfl
    exact ⟨congrArg Store.viewPool same, congrArg Store.disk same⟩
  | replace nodes => exact absurd rfl (own nodes)
  | _ => exact ⟨rfl, rfl⟩

/-! ### Who has the turn -/

/-- Who is past the point where it has the turn has it. -/
def Orderly (s : Crowd) : Prop :=
  ∀ id stage, s.stage id = some stage → stage.inTurn = true → s.owner = some id

theorem orderly_start (store : Store) : Orderly (start store) := nofun

/-- A call that has come further has the turn, if it had it before or just got it. -/
theorem Steps.own (moved : Steps source s id m s') (ok : Orderly s) {stage : Stage}
    (further : s'.stage id = some stage) (inTurn : stage.inTurn = true) : s'.owner = some id := by
  cases moved with
  | ensure new =>
    rw [stage_look, if_pos rfl] at further
    obtain rfl := Option.some.inj further
    split at inTurn <;> cases inTurn
  | refresh new =>
    rw [stage_put_self] at further
    obtain rfl := Option.some.inj further
    cases inTurn
  | enter waits free => rfl
  | look turn => exact ok id _ turn rfl
  | insist turn => exact ok id _ turn rfl
  | noSeeds due seedless => exact ok id _ due rfl
  | ask due configured => exact ok id _ due rfl
  | hear answer asks => exact ok id _ asks rfl
  | leave done own =>
    obtain rfl := Option.some.inj (done.symm.trans further)
    cases inTurn
  | quit had going =>
    rw [stage_pass_self] at further
    obtain rfl := Option.some.inj further
    cases inTurn
  | replace nodes => exact ok id stage further inTurn

theorem Steps.orderly (moved : Steps source s id m s') (ok : Orderly s) : Orderly s' := by
  intro other stage further inTurn
  by_cases same : other = id
  · subst same
    exact moved.own ok further inTurn
  · rw [moved.stage_of_ne same] at further
    exact moved.owner_of_ne same (ok other stage further inTurn)

theorem orderly_of_run (ran : run source s moves = some s') (ok : Orderly s) : Orderly s' :=
  run_keeps ran (fun _ moved ok => moved.orderly ok) ok

/-- Two calls that have their turn are one. -/
theorem Orderly.eq_of_inTurn (ok : Orderly s) {other : Nat} {a b : Stage}
    (mine : s.stage id = some a) (theirs : s.stage other = some b) (first : a.inTurn = true)
    (second : b.inTurn = true) : id = other :=
  Option.some.inj ((ok id a mine first).symm.trans (ok other b theirs second))

/-! ### How often a call asks -/

/-- The call has not asked yet, and may still do so. -/
def mayAsk (s : Crowd) (id : Nat) : Bool :=
  match s.stage id with
  | some stage => !stage.past
  | none => true

theorem mayAsk_of_stage {stage : Stage} (reached : s.stage id = some stage) :
    s.mayAsk id = !stage.past := by
  unfold mayAsk
  rw [reached]

theorem mayAsk_of_new (new : s.stage id = none) : s.mayAsk id = true := by
  unfold mayAsk
  rw [new]

/-- To ask uses up the permission to. -/
theorem Steps.mayAsk_of_isAsk (moved : Steps source s id m s') (ask : m.isAsk = true) :
    s.mayAsk id = true ∧ s'.mayAsk id = false := by
  cases moved with
  | noSeeds due seedless =>
    exact ⟨mayAsk_of_stage due, mayAsk_of_stage (stage_put_self s id _)⟩
  | ask due configured =>
    exact ⟨mayAsk_of_stage due, mayAsk_of_stage (stage_put_self s id _)⟩
  | _ => cases ask

/-- What is used up is never given back. -/
theorem Steps.mayAsk_before (moved : Steps source s id m s') {other : Nat}
    (may : s'.mayAsk other = true) : s.mayAsk other = true := by
  by_cases same : other = id
  · subst same
    cases moved with
    | ensure new => exact mayAsk_of_new new
    | refresh new => exact mayAsk_of_new new
    | enter waits free => exact mayAsk_of_stage waits
    | look turn => exact mayAsk_of_stage turn
    | insist turn => exact mayAsk_of_stage turn
    | noSeeds due seedless => exact mayAsk_of_stage due
    | ask due configured => exact mayAsk_of_stage due
    | hear answer asks =>
      rw [mayAsk_of_stage (stage_hear_self s other _)] at may
      cases may
    | leave done own => exact may
    | quit had going =>
      rw [mayAsk_of_stage (stage_pass_self s other _ _)] at may
      cases may
    | replace nodes => exact may
  · have kept := moved.stage_of_ne same
    unfold mayAsk at may ⊢
    rwa [kept] at may

/-- A call asks at most once, and no more once it cannot. -/
theorem countP_isAsk_le (ran : run source s moves = some s') :
    moves.countP (fun p => p.1 == id && p.2.isAsk) ≤ if s.mayAsk id = true then 1 else 0 := by
  induction moves generalizing s with
  | nil => exact Nat.zero_le _
  | cons first rest ih =>
    obtain ⟨mover, m⟩ := first
    rw [run, List.foldlM_cons] at ran
    obtain ⟨between, moved, ran⟩ := Option.bind_eq_some_iff.1 ran
    have steps := steps_of_step moved
    have later := ih ran
    rw [List.countP_cons]
    by_cases asks : (mover == id && m.isAsk) = true
    · obtain ⟨mine, ask⟩ := Bool.and_eq_true_iff.1 asks
      obtain rfl := eq_of_beq mine
      obtain ⟨before, after⟩ := steps.mayAsk_of_isAsk ask
      rw [if_neg (by simp [after])] at later
      rw [if_pos asks, if_pos before]
      omega
    · rw [if_neg asks]
      by_cases may : between.mayAsk id = true
      · rw [if_pos may] at later
        rw [if_pos (steps.mayAsk_before may)]
        exact later
      · rw [if_neg may] at later
        omega

theorem mayAsk_of_asked {seed : Option String} (ran : run source s moves = some s')
    (asked : (id, .ask seed) ∈ moves) : s'.mayAsk id = false := by
  obtain ⟨before, after, rfl⟩ := List.append_of_mem asked
  obtain ⟨u, v, -, moved, later⟩ := Runs.split ran
  have used := ((steps_of_step moved).mayAsk_of_isAsk rfl).2
  refine run_keeps later (P := fun s => s.mayAsk id = false) ?_ used
  intro s s' other m _ moved used
  by_contra may
  rw [Bool.not_eq_false] at may
  rw [moved.mayAsk_before may] at used
  cases used

/-- Who asks a seed asks one that is configured. -/
theorem configured_of_asked {seed : String} (ran : run source s moves = some s')
    (asked : (id, .ask (some seed)) ∈ moves) : seed ∈ source.seeds := by
  obtain ⟨before, after, rfl⟩ := List.append_of_mem asked
  obtain ⟨u, v, -, moved, -⟩ := Runs.split ran
  cases steps_of_step moved with
  | ask due configured => exact configured

/-! ### Calls that want no more than a pool that is large enough -/

/-- No call wants more than that, and who is about to ask has good reason to. -/
structure Modest (source : SeedSource ω) (s : Crowd) : Prop where
  content : ∀ id stage, s.stage id = some stage → stage.insists = false
  needed : ∀ id stage, s.stage id = some stage → stage.refills = true → ¬ s.Viable source

theorem modest_start (store : Store) : Modest source (start store) := ⟨nofun, nofun⟩

/-- A pool that is large enough stays so. -/
theorem Steps.viable (moved : Steps source s id m s') (ok : Modest source s)
    (modest : m.isModest = true) (viable : s.Viable source) : s'.Viable source := by
  by_cases idle : m.fills = false
  · unfold Viable at viable ⊢
    rwa [moved.viewPool_eq idle]
  · cases moved with
    | hear answer asks => exact absurd viable (ok.needed id _ asks rfl)
    | replace nodes => cases modest
    | _ => exact absurd rfl idle

/-- What a call comes to by a modest move of its own. -/
theorem Steps.modest_self (moved : Steps source s id m s') (ok : Modest source s)
    (modest : m.isModest = true) {stage : Stage} (reached : s'.stage id = some stage) :
    stage.insists = false ∧ (stage.refills = true → ¬ s'.Viable source) := by
  -- only a call that finds the pool too small is about to ask, and asking leaves it so
  cases moved with
  | ensure new =>
    rw [stage_look, if_pos rfl] at reached
    obtain rfl := Option.some.inj reached
    split <;> exact ⟨rfl, nofun⟩
  | refresh new => cases modest
  | @enter regardless waits free =>
    rw [stage_pass_self] at reached
    obtain rfl := Option.some.inj reached
    have content : (Stage.waits regardless).insists = false := ok.content id _ waits
    exact ⟨content, nofun⟩
  | look turn =>
    rw [stage_look, if_pos rfl] at reached
    obtain rfl := Option.some.inj reached
    split
    · exact ⟨rfl, nofun⟩
    · rename_i small
      exact ⟨rfl, fun _ => small⟩
  | insist turn => cases ok.content id _ turn
  | noSeeds due seedless =>
    rw [stage_put_self] at reached
    obtain rfl := Option.some.inj reached
    exact ⟨rfl, nofun⟩
  | ask due configured =>
    rw [stage_put_self] at reached
    obtain rfl := Option.some.inj reached
    exact ⟨rfl, fun _ => ok.needed id _ due rfl⟩
  | hear answer asks =>
    rw [stage_hear_self] at reached
    obtain rfl := Option.some.inj reached
    exact ⟨rfl, nofun⟩
  | leave done own =>
    obtain rfl := Option.some.inj (done.symm.trans reached)
    exact ⟨rfl, nofun⟩
  | quit had going =>
    rw [stage_pass_self] at reached
    obtain rfl := Option.some.inj reached
    exact ⟨rfl, nofun⟩
  | replace nodes => cases modest

theorem Steps.modest (moved : Steps source s id m s') (orderly : Orderly s) (ok : Modest source s)
    (modest : m.isModest = true) : Modest source s' := by
  constructor
  · intro other stage reached
    by_cases same : other = id
    · subst same
      exact (moved.modest_self ok modest reached).1
    · rw [moved.stage_of_ne same] at reached
      exact ok.content other stage reached
  · intro other stage reached refills
    by_cases same : other = id
    · subst same
      exact (moved.modest_self ok modest reached).2 refills
    · rw [moved.stage_of_ne same] at reached
      have small := ok.needed other stage reached refills
      by_cases idle : m.fills = false
      · unfold Viable at small ⊢
        rwa [moved.viewPool_eq idle]
      · cases moved with
        | hear answer asks =>
          -- both have their turn
          exact absurd (orderly.eq_of_inTurn reached asks (Stage.inTurn_of_refills refills) rfl) same
        | replace nodes => cases modest
        | _ => exact absurd rfl idle

/-- All is in order, the pool is large enough, and the call is content if it is done. -/
structure Served (source : SeedSource ω) (id : Nat) (s : Crowd) : Prop where
  orderly : Orderly s
  modest : Modest source s
  viable : s.Viable source
  content : ∀ answer, s.stage id = some (.done answer) →
    ∃ pool, answer = .ok pool ∧ source.minPool ≤ pool.length

theorem Steps.served {other : Nat} (moved : Steps source s other m s') (ok : Served source id s)
    (modest : m.isModest = true) : Served source id s' := by
  refine ⟨moved.orderly ok.orderly, moved.modest ok.orderly ok.modest modest,
    moved.viable ok.modest modest ok.viable, ?_⟩
  intro answer done
  by_cases same : id = other
  · subst same
    -- who is about to ask has found the pool too small, which it is not
    cases moved with
    | ensure new =>
      rw [stage_look_of_viable ok.viable] at done
      obtain rfl := Stage.done.inj (Option.some.inj done)
      exact ⟨_, rfl, ok.viable⟩
    | look turn =>
      rw [stage_look_of_viable ok.viable] at done
      obtain rfl := Stage.done.inj (Option.some.inj done)
      exact ⟨_, rfl, ok.viable⟩
    | refresh new => cases modest
    | enter waits free =>
      rw [stage_pass_self] at done
      cases done
    | insist turn => cases ok.modest.content id _ turn
    | noSeeds due seedless => exact absurd ok.viable (ok.modest.needed id _ due rfl)
    | ask due configured => exact absurd ok.viable (ok.modest.needed id _ due rfl)
    | hear answer asks => exact absurd ok.viable (ok.modest.needed id _ asks rfl)
    | leave told own => exact ok.content answer done
    | quit had going =>
      rw [stage_pass_self] at done
      cases done
    | replace nodes => cases modest
  · rw [moved.stage_of_ne same] at done
    exact ok.content answer done

/-- Where the pool is large enough, nobody asks. -/
theorem Served.not_asks {seed : Option String} {other : Nat} (ok : Served source id s) :
    s.step source other (.ask seed) ≠ some s' := by
  intro moved
  cases steps_of_step moved with
  | noSeeds due seedless => exact ok.modest.needed other _ due rfl ok.viable
  | ask due configured => exact ok.modest.needed other _ due rfl ok.viable

/-- A call waits while another one makes the pool large enough: it never asks, and is content with
that pool if it is done. -/
theorem not_asks_of_viable {store : Store} {before after : List (Nat × Move)} {other : Nat}
    {answer : Except HttpFailure HttpReply} {regardless : Bool} {u v : Crowd}
    (ran : run source (start store) (before ++ (other, .hear answer) :: after) = some s)
    (modest : ∀ p ∈ before ++ (other, .hear answer) :: after, p.2.isModest = true)
    (ranBefore : run source (start store) before = some u)
    (waits : u.stage id = some (.waits regardless))
    (heard : u.step source other (.hear answer) = some v) (viable : v.Viable source) :
    (∀ seed, (id, .ask seed) ∉ before ++ (other, .hear answer) :: after) ∧
      ∀ told, s.stage id = some (.done told) →
        ∃ pool, told = .ok pool ∧ source.minPool ≤ pool.length := by
  obtain ⟨u', v', ranBefore', heard', ranAfter⟩ := Runs.split ran
  obtain rfl := Option.some.inj (ranBefore.symm.trans ranBefore')
  obtain rfl := Option.some.inj (heard.symm.trans heard')
  have steps := steps_of_step heard
  have ok : Orderly u ∧ Modest source u := by
    refine run_keeps (P := fun s => Orderly s ∧ Modest source s) ranBefore ?_
      ⟨orderly_start store, modest_start store⟩
    intro s s' mover m mem moved ok
    exact ⟨moved.orderly ok.1, moved.modest ok.1 ok.2 (modest _ (List.mem_append_left _ mem))⟩
  -- the answer makes the pool large enough, and from there on nobody asks
  have served : Served source id v := by
    refine ⟨steps.orderly ok.1, steps.modest ok.1 ok.2 rfl, viable, ?_⟩
    intro told done
    by_cases same : id = other
    · subst same
      cases steps with
      | hear answer asks => cases waits.symm.trans asks
    · rw [steps.stage_of_ne same] at done
      cases waits.symm.trans done
  have stays {part : List (Nat × Move)} {w : Crowd} (sub : ∀ p ∈ part, p ∈ after)
      (ranPart : run source v part = some w) : Served source id w := by
    refine run_keeps ranPart ?_ served
    intro s s' mover m mem moved ok
    exact moved.served ok (modest _ (List.mem_append_right _ (List.mem_cons_of_mem _ (sub _ mem))))
  refine ⟨?_, (stays (fun _ mem => mem) ranAfter).content⟩
  intro seed asked
  rcases List.mem_append.1 asked with early | late
  · have may := mayAsk_of_stage waits
    rw [mayAsk_of_asked ranBefore early] at may
    cases may
  · rcases List.mem_cons.1 late with now | later
    · cases now
    · obtain ⟨first, rest, rfl⟩ := List.append_of_mem later
      obtain ⟨w, w', ranFirst, moved, -⟩ := Runs.split ranAfter
      exact (stays (fun _ mem => List.mem_append_left _ mem) ranFirst).not_asks moved

end Crowd
end OnionSwarm.SeedSource

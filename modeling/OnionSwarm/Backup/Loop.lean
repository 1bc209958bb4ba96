/-
When rounds are made.

Those who change an object say so by a notification.  The loop waits for one, takes all others that
are there already with it, and makes a round; then it waits again.  When nobody can notify it any
more and no notification is left, it stops.

If only so many notifications can be queued, whoever has more of them waits until there is room
again.  The loop takes all that are queued before it makes a round, so notifications then come in
waves, each as large as there is room for, and each wave brings a round with it.
-/

namespace OnionSwarm.Backup

/-- What the loop is doing. -/
inductive Phase where
  | waiting
  /-- It has a notification and takes the others. -/
  | draining
  /-- It makes a round. -/
  | round
  | stopped
  deriving DecidableEq, Repr

/-- The loop and its notifications. -/
structure Loop where
  phase : Phase
  /-- Notifications that were not taken yet. -/
  queued : Nat
  /-- Can notifications still come? -/
  isOpen : Bool
  /-- Rounds that were begun. -/
  rounds : Nat
  deriving DecidableEq, Repr

/-- What happens. -/
inductive LoopEvent where
  | notify
  /-- No notification will come any more. -/
  | close
  /-- The loop takes a notification. -/
  | take
  /-- The loop finds no notification that is there already. -/
  | dry
  /-- The round ends. -/
  | finish
  /-- The loop finds that nothing will come. -/
  | stop
  deriving DecidableEq, Repr

namespace Loop

/-- A loop that waits for notifications, some of which are there. -/
def start (queued : Nat) (isOpen : Bool) : Loop := ⟨.waiting, queued, isOpen, 0⟩

/-- What an event leads to; nothing if it cannot happen. -/
def step (l : Loop) : LoopEvent → Option Loop
  | .notify =>
    if l.isOpen && l.phase ≠ .stopped then some { l with queued := l.queued + 1 } else none
  | .close => some { l with isOpen := false }
  | .take =>
    match l.phase, l.queued with
    | .waiting, n + 1 => some { l with phase := .draining, queued := n }
    | .draining, n + 1 => some { l with queued := n }
    | _, _ => none
  | .dry =>
    match l.phase, l.queued with
    | .draining, 0 => some { l with phase := .round, rounds := l.rounds + 1 }
    | _, _ => none
  | .finish => if l.phase = .round then some { l with phase := .waiting } else none
  | .stop =>
    if l.phase = .waiting ∧ l.queued = 0 ∧ !l.isOpen then some { l with phase := .stopped }
    else none

/-- What the loop does next by itself; nothing if it has to wait or has stopped. -/
def next? (l : Loop) : Option LoopEvent :=
  match l.phase, l.queued with
  | .waiting, 0 => if l.isOpen then none else some .stop
  | .waiting, _ + 1 => some .take
  | .draining, 0 => some .dry
  | .draining, _ + 1 => some .take
  | .round, _ => some .finish
  | .stopped, _ => none

/-- Steps that are enough to deal with what is queued: each notification is taken, and brings no
more than one round with it. -/
def enough (l : Loop) : Nat := 3 * l.queued + 4

/-- Lets the loop go on by itself, making a round whenever one is due, for some steps. -/
def runFor {m : Type → Type} [Monad m] (round : m Unit) : (steps : Nat) → Loop → m Loop
  | 0, l => return l
  | steps + 1, l => do
    match l.next?.bind l.step with
    | none => return l
    | some l =>
      if l.phase = .round then round
      runFor round steps l

/-- Lets the loop go on by itself until it waits or stops. -/
def run {m : Type → Type} [Monad m] (round : m Unit) (l : Loop) : m Loop :=
  runFor round l.enough l

/-- The sizes of the waves in which notifications come if there is room for some of them. -/
def waves (room notifications : Nat) : List Nat :=
  List.replicate (notifications / room) room ++ [notifications % room]

/-- Lets the loop deal with one wave of notifications after the other, and then come to its end. -/
def runWaves {m : Type → Type} [Monad m] (round : m Unit) : List Nat → Loop → m Loop
  | [], l => run round { l with isOpen := false }
  | wave :: rest, l => do
    runWaves round rest (← run round { l with queued := l.queued + wave })

end Loop
end OnionSwarm.Backup

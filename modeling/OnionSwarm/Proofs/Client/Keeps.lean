/-
What the operations of the client leave as it was.

An operation keeps a view of the client if the view is the same before and after.  Keeping goes
through every way of putting operations together, so it is enough to know it of the smallest ones.
-/
import OnionSwarm.Proofs.Client.Acts
import OnionSwarm.Proofs.Store.Views

namespace OnionSwarm

variable {ω α β γ δ : Type}

/-- The operation leaves what is seen of a client as it was. -/
def Act.Keeps (view : Client ω → γ) (act : Act ω α) : Prop := ∀ c, view (act c).2 = view c

namespace Act.Keeps

variable {view : Client ω → γ}

theorem pure (a : α) : Keeps view (Pure.pure a : Act ω α) := fun _ => rfl

theorem bind {x : Act ω α} {f : α → Act ω β} (first : Keeps view x) (next : ∀ a, Keeps view (f a)) :
    Keeps view (x >>= f) := by
  intro c
  rw [bind_apply, next]
  exact first c

theorem ite {p : Prop} [Decidable p] {x y : Act ω α} (yes : Keeps view x) (no : Keeps view y) :
    Keeps view (if p then x else y) := by
  split
  · exact yes
  · exact no

/-- Jobs one after another keep what each of them keeps. -/
theorem run_bind {pass : Nat → Act ω Unit} {job : Work ω α} {next : α → Work ω β}
    (first : Keeps view (job.run pass)) (each : ∀ a, Keeps view ((next a).run pass)) :
    Keeps view ((job >>= next).run pass) := by
  rw [Job.run_bind]
  exact first.bind each

/-- What is kept is kept in every part. -/
theorem part {act : Act ω α} (kept : Keeps view act) (part : γ → δ) :
    Keeps (fun c => part (view c)) act := fun c => congrArg part (kept c)

end Act.Keeps

/-! ### A call of its own -/

/-- The operation has nothing to do with the notes. -/
def Act.Blind (act : Act ω α) : Prop :=
  ∀ (c : Client ω) (notes : CallNotes),
    act { c with notes } = ((act c).1, { (act c).2 with notes })

theorem Act.Blind.notes {act : Act ω α} (blind : act.Blind) : Act.Keeps Client.notes act := by
  intro c
  have same := blind c c.notes
  exact congrArg (·.2.notes) same

theorem Work.run_keep {pass : Nat → Act ω Unit} (blind : ∀ delay, (pass delay).Blind)
    (others : CallNotes) (p : Progress (Client ω) α) :
    (keep others p).run pass = ((p.run pass).1, { (p.run pass).2 with notes := others }) := by
  induction p with
  | done a c => rfl
  | waits delay c rest ih =>
    rw [keep, Progress.run, Progress.run, blind delay c others]
    have own : { (pass delay c).2 with notes := c.notes } = (pass delay c).2 := by
      rw [← (blind delay).notes c]
    simp only [own]
    exact ih _

/-- A call of its own is one that begins without notes; then the notes are again what they were. -/
theorem Work.run_apart {pass : Nat → Act ω Unit} (blind : ∀ delay, (pass delay).Blind)
    (work : Work ω α) (c : Client ω) :
    (apart work).run pass c
      = ((work.run pass { c with notes := .empty }).1,
        { (work.run pass { c with notes := .empty }).2 with notes := c.notes }) :=
  run_keep blind c.notes _

/-! ### Views -/

/-- The swarms of all accounts. -/
def Client.swarms (c : Client ω) : String → List Node := c.store.viewSwarm

/-- What is known of the network time. -/
def Client.clock (c : Client ω) : Option Reading × Option Nat := (c.reading, c.lastSync)

/-- The swarms and the clock. -/
def Client.standing (c : Client ω) : (String → List Node) × Option Reading × Option Nat :=
  (c.swarms, c.clock)

/-- The node that was picked for a call. -/
def Client.pin (c : Client ω) : Option Node := c.notes.get? .pinnedNode

/-- What decides where a call goes: the swarms, the node that was picked for it, and the picks. -/
def Client.bearings (c : Client ω) : (String → List Node) × Option Node × Rounds :=
  (c.swarms, c.pin, c.rounds)

/-- The bearings and the clock. -/
def Client.affairs (c : Client ω) :
    ((String → List Node) × Option Node × Rounds) × Option Reading × Option Nat :=
  (c.bearings, c.clock)

/-- All of a client but its storage and its guards. -/
def Client.others (c : Client ω) :
    Rounds × Dice × Nat × (Option Reading × Option Nat) × CallNotes × ω :=
  (c.rounds, c.dice, c.turn, c.clock, c.notes, c.outside)

/-- What is noted of complaints about the time is no concern of where the call goes. -/
theorem Client.bearings_set_sawSkew (c : Client ω) :
    Client.bearings { c with notes := c.notes.set .sawSkew () } = c.bearings := by
  have other : CallKey.pinnedNode ≠ CallKey.sawSkew := nofun
  have pin := c.notes.get?_set_of_ne () other
  simp [bearings, pin, swarms, Client.pin]

theorem Client.bearings_erase_sawSkew (c : Client ω) :
    Client.bearings { c with notes := c.notes.erase .sawSkew } = c.bearings := by
  have pin := c.notes.get?_erase .sawSkew .pinnedNode
  simp [bearings, pin, swarms, Client.pin]

theorem Act.Keeps.standing {act : Act ω α} (kept : Keeps Client.affairs act) :
    Keeps Client.standing act := kept.part fun affairs => (affairs.1.1, affairs.2)

end OnionSwarm

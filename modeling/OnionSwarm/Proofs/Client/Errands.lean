/-
What a call along a path may do to the client.

A call to a node needs a path, a path needs a pool, and a pool may have to be asked of a seed; when
the path fails, nodes leave the pool and the guards.  The search for the network time makes such
calls and notes the time.  All of this is made of a few small errands, which are told here once
(`Errand`).  Whatever every errand leaves alone, every such operation leaves alone; and whatever no
errand can spoil, none of them can.
-/
import Mathlib.Logic.Relation
import OnionSwarm.Client.Clock
import OnionSwarm.Client.Rpc
import OnionSwarm.Proofs.Client.Keeps

namespace OnionSwarm

variable {ω α β γ : Type} {timed : Prop}

/-- One errand.  Only where the time is looked for may it be noted. -/
inductive Errand (timed : Prop) : Client ω → Client ω → Prop
  /-- The pool is looked at. -/
  | looks (c : Client ω) : Errand timed c { c with store := c.store.notePool }
  /-- The pool is replaced by what a seed answered. -/
  | refills (c : Client ω) {seed : String} {answer : Except HttpFailure HttpReply}
      {nodes : List Node} (usable : SeedSource.readAnswer seed answer = .ok nodes) :
      Errand timed c { c with store := c.store.setPool nodes }
  /-- A node leaves the pool. -/
  | drops (c : Client ω) (key : String) :
      Errand timed c { c with store := c.store.setPool (Pool.without c.store.viewPool key) }
  /-- Guards are chosen or given up, the dice are thrown, layers encrypted, the world is asked. -/
  | aside (c : Client ω) (guards : List Node) (dice : Dice) (turn : Nat) (outside : ω) :
      Errand timed c { c with guards, dice, turn, outside }
  /-- The time is noted. -/
  | tells (c : Client ω) (looked : timed) (reading : Option Reading) (lastSync : Option Nat) :
      Errand timed c { c with reading, lastSync }

/-- The operation does errands, and nothing else. -/
def Act.Errands (timed : Prop) (act : Act ω α) : Prop :=
  ∀ c, Relation.ReflTransGen (Errand timed) c (act c).2

/-! ### Operations put together -/

namespace Act.Errands

theorem pure (a : α) : Errands timed (Pure.pure a : Act ω α) := fun _ => .refl

theorem bind {x : Act ω α} {f : α → Act ω β} (first : Errands timed x)
    (next : ∀ a, Errands timed (f a)) : Errands timed (x >>= f) :=
  fun c => (first c).trans (next _ _)

theorem map {x : Act ω α} (errands : Errands timed x) (f : α → β) : Errands timed (f <$> x) :=
  errands

theorem ite {p : Prop} [Decidable p] {x y : Act ω α} (yes : Errands timed x)
    (no : Errands timed y) : Errands timed (if p then x else y) := by
  split
  · exact yes
  · exact no

theorem mapM {f : β → Act ω α} (each : ∀ b, Errands timed (f b)) (bs : List β) :
    Errands timed (bs.mapM f) := by
  induction bs with
  | nil => exact pure []
  | cons b bs ih =>
    rw [List.mapM_cons]
    exact (each b).bind fun a => ih.bind fun as => pure (a :: as)

end Act.Errands

/-! ### What errands leave alone -/

/-- What no errand can spoil, they all together cannot. -/
theorem Act.Errands.preserves {right : Client ω → Prop} {act : Act ω α}
    (errands : Errands timed act) (each : ∀ c d, Errand timed c d → right c → right d)
    {c : Client ω} (found : right c) : right (act c).2 := by
  have path (d : Client ω) (errands : Relation.ReflTransGen (Errand timed) c d) : right d := by
    induction errands with
    | refl => exact found
    | tail _ errand ih => exact each _ _ errand ih
  exact path _ (errands c)

/-- What every errand leaves as it was, they all leave as it was. -/
theorem Act.Errands.keeps {view : Client ω → γ} {act : Act ω α} (errands : Errands timed act)
    (each : ∀ c d, Errand timed c d → view d = view c) : Keeps view act := fun c =>
  errands.preserves (fun d e errand (same : view d = view c) => (each d e errand).trans same) rfl

theorem Errand.notes {c d : Client ω} (errand : Errand timed c d) : d.notes = c.notes := by
  cases errand <;> rfl

theorem Errand.swarms {c d : Client ω} (errand : Errand timed c d) : d.swarms = c.swarms := by
  cases errand with
  | refills => exact funext (c.store.viewSwarm_setPool _)
  | drops => exact funext (c.store.viewSwarm_setPool _)
  | looks => rfl
  | aside => rfl
  | tells => rfl

theorem Errand.bearings {c d : Client ω} (errand : Errand timed c d) : d.bearings = c.bearings := by
  have rounds : d.rounds = c.rounds := by
    cases errand <;> rfl
  rw [Client.bearings, Client.bearings, errand.swarms, Client.pin, Client.pin, errand.notes, rounds]

theorem Errand.clock {c d : Client ω} (errand : Errand False c d) : d.clock = c.clock := by
  cases errand with
  | tells looked => exact looked.elim
  | _ => rfl

theorem Act.Errands.keeps_notes {act : Act ω α} (errands : Errands True act) :
    Keeps Client.notes act := errands.keeps fun _ _ errand => errand.notes

theorem Act.Errands.keeps_bearings {act : Act ω α} (errands : Errands True act) :
    Keeps Client.bearings act := errands.keeps fun _ _ errand => errand.bearings

theorem Act.Errands.keeps_affairs {act : Act ω α} (errands : Errands False act) :
    Keeps Client.affairs act :=
  errands.keeps fun c d errand => by
    rw [Client.affairs, Client.affairs, errand.bearings, errand.clock]

open Act

/-! ### The pool and paths -/

theorem Act.errands_ofDice (choose : Dice → α × Dice) :
    Errands timed (ofDice choose : Act ω α) :=
  fun c => .single (.aside c c.guards _ c.turn c.outside)

theorem Act.errands_ofOutside (act : StateM ω α) : Errands timed (ofOutside act) :=
  fun c => .single (.aside c c.guards c.dice c.turn _)

theorem Act.errands_pool : Errands timed (pool : Act ω (List Node)) := fun c => .single (.looks c)

namespace SeedSource

theorem errands_refresh (source : SeedSource ω) : Errands timed source.refresh := by
  refine .bind (errands_ofDice _) fun seed => ?_
  cases seed with
  | none => exact .pure _
  | some seed =>
    refine .bind (errands_ofOutside _) fun answer => ?_
    cases read : readAnswer seed answer with
    | error e => exact .pure _
    | ok nodes => exact fun c => .single (.refills c read)

theorem errands_ensure (source : SeedSource ω) : Errands timed source.ensure :=
  .bind errands_pool fun _ => .ite (.pure _) source.errands_refresh

theorem errands_randomNode (source : SeedSource ω) : Errands timed source.randomNode := by
  refine .bind source.errands_ensure fun pool => ?_
  cases pool with
  | error e => exact .pure _
  | ok pool =>
    refine .bind (errands_ofDice _) fun picked => ?_
    cases picked with
    | none => exact .pure _
    | some n => exact .pure _

theorem errands_dropKey (key : String) : Errands timed (dropKey key : Act ω Unit) := by
  intro c
  refine .head (.looks c) ?_
  set looked : Client ω := { c with store := c.store.notePool }
  change Relation.ReflTransGen (Errand timed) looked
    ((if Pool.hasKey c.store.viewPool key then setPool (Pool.without c.store.viewPool key)
      else pure ()) looked).2
  split
  · exact .single (.drops looked key)
  · exact .refl

end SeedSource

namespace Paths

theorem errands_get (source : SeedSource ω) (plan : PathPlan) (exclude : Option Node) :
    Errands timed (get source plan exclude) := by
  refine source.errands_ensure.bind fun pool => ?_
  cases pool with
  | error e => exact .pure _
  | ok pool => exact fun c => .single (.aside c _ _ c.turn c.outside)

theorem errands_dropPath (path : Path) : Errands timed (dropPath path : Act ω Unit) :=
  fun c => .single (.aside c _ c.dice c.turn c.outside)

theorem errands_dropKey (key : String) : Errands timed (dropKey key : Act ω Unit) :=
  (SeedSource.errands_dropKey key).bind fun _ c => .single (.aside c _ c.dice c.turn c.outside)

/-- To drop a node concerns only storage and guards. -/
theorem keeps_others_dropKey (key : String) :
    Keeps Client.others (dropKey key : Act ω Unit) :=
  .bind (.bind (fun _ => rfl) fun _ => .ite (fun _ => rfl) (.pure _)) fun _ _ => rfl

/-- What is given up for a failure: the nodes of a key, the path, both, or nothing. -/
def giveUp (path : Path) (key? : Option String) (whole : Bool) : Act ω Unit := do
  (key?.map dropKey).getD (pure ())
  if whole then dropPath path

theorem penalise_eq_giveUp (path : Path) (failure : OnionFailure) :
    ∃ key? whole told, ∀ c : Client ω,
      penalise path failure c = (told, (giveUp path key? whole c).2) := by
  unfold penalise
  split
  · split
    · exact ⟨some _, false, _, fun _ => rfl⟩
    · exact ⟨some _, true, _, fun _ => rfl⟩
  · exact ⟨none, true, _, fun _ => rfl⟩
  · exact ⟨none, true, _, fun _ => rfl⟩
  · exact ⟨none, true, _, fun _ => rfl⟩
  all_goals exact ⟨none, false, _, fun _ => rfl⟩

/-- Blaming somebody does no more than dropping keys and giving the path up. -/
theorem keeps_penalise_of {view : Client ω → γ} (path : Path)
    (keys : ∀ key, Keeps view (dropKey key)) (whole : Keeps view (dropPath path))
    (failure : OnionFailure) : Keeps view (penalise path failure) := by
  obtain ⟨key?, all, told, form⟩ := penalise_eq_giveUp (ω := ω) path failure
  have kept : Keeps view (giveUp path key? all) := by
    refine .bind ?_ fun _ => .ite whole (.pure _)
    cases key? with
    | none => exact .pure _
    | some key => exact keys key
  intro c
  rw [form c]
  exact kept c

theorem errands_penalise (path : Path) (failure : OnionFailure) :
    Errands timed (penalise path failure : Act ω ApiFailure) := by
  obtain ⟨key?, all, told, form⟩ := penalise_eq_giveUp (ω := ω) path failure
  have errands : Errands timed (giveUp path key? all : Act ω Unit) := by
    refine .bind ?_ fun _ => .ite (errands_dropPath path) (.pure _)
    cases key? with
    | none => exact .pure _
    | some key => exact errands_dropKey key
  intro c
  rw [form c]
  exact errands c

end Paths

/-! ### Calls along paths -/

theorem Exchange.errands_send (cipher : LayerCipher)
    {post : String → Bytes → Act ω (Except HttpFailure HttpReply)}
    (posting : ∀ url body, Errands timed (post url body)) (turn : Nat) (path : Path)
    (destination : Destination) (payload : Bytes) :
    Errands timed (Exchange.send cipher post turn path destination payload) := by
  unfold Exchange.send
  split
  · exact .pure _
  · split
    · exact .pure _
    · exact (posting _ _).bind fun _ => .pure _

theorem Transport.errands_ofCipher (cipher : LayerCipher) (post : HttpPost ω) (path : Path)
    (destination : Destination) (payload : Bytes) :
    Errands timed (Transport.ofCipher cipher post path destination payload) := by
  intro c
  have turned : Errand timed c { c with turn := c.turn + path.length + 1 } :=
    .aside c c.guards c.dice _ c.outside
  exact .head turned
    (Exchange.errands_send cipher (fun _ _ => errands_ofOutside _) _ path destination payload _)

theorem NodeRpc.errands_overOnion (source : SeedSource ω) (plan : PathPlan)
    {transport : Transport ω}
    (sending : ∀ path destination payload, Errands timed (transport path destination payload))
    (n : Node) (call : NodeCall) :
    Errands timed (NodeRpc.overOnion source plan transport n call) := by
  refine (Paths.errands_get source plan (some n)).bind fun path => ?_
  cases path with
  | error e => exact .pure _
  | ok path =>
    refine (sending _ _ _).bind fun reply => ?_
    cases reply with
    | ok reply => exact .pure _
    | error failure => exact (Paths.errands_penalise path failure).bind fun _ => .pure _

/-! ### The network time -/

namespace ClockSource

variable {source : ClockSource ω}

theorem errands_sample (asking : ∀ n call, Errands timed (source.ask n call)) :
    Errands timed source.sample := by
  refine source.pool.errands_ensure.bind fun pool => ?_
  cases pool with
  | error e => exact .pure _
  | ok pool =>
    refine .bind (errands_ofDice _) fun nodes => ?_
    refine (Errands.mapM (fun n => asking n .info) nodes).bind fun replies => ?_
    exact .ite ((errands_ofOutside _).bind fun _ => .pure _)
      ((errands_ofOutside _).bind fun _ => .pure _)

theorem errands_resync (asking : ∀ n call, Errands True (source.ask n call)) :
    Errands True source.resync := by
  refine .bind (errands_ofOutside _) fun requested => .bind (errands_ofOutside _) fun now => ?_
  refine .bind (fun _ => .refl) fun c => ?_
  split
  · exact .pure _
  · exact .pure _
  · refine (errands_sample asking).bind fun time => ?_
    cases time with
    | none => exact .pure _
    | some time =>
      refine .bind (errands_ofOutside _) fun instant => .bind (fun c => ?_) fun _ => .pure _
      exact .single (.tells c trivial _ _)

end ClockSource
end OnionSwarm

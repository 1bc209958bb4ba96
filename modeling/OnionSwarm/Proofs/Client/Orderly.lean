/-
Every operation leaves the store in order.

A list gets into the store in two ways only: it was read from a reply, or it is what stays of a list
when nodes leave it.  So every list in memory is well formed, and so is every list in storage,
because it was in memory once and is read back as it was written.  Which writes failed, and when the
store was opened again, makes no difference: then an older list comes back, or none.

Work may wait, and others change the store meanwhile.  Therefore the store has to be in order at
every pause and not at the end only, and work may go on with any store that is in order
(`Work.Orderly`).  What calls along paths do is known already, errand by errand, so it is enough to
look at each errand once.
-/
import OnionSwarm.Proofs.Client.Calls
import OnionSwarm.Proofs.Job
import OnionSwarm.Proofs.Node.Entry
import OnionSwarm.Proofs.Store.Recall

namespace OnionSwarm

variable {ω α β : Type} {p : α → Prop} {q : β → Prop}

/-! ### The store -/

namespace Store

/-- All lists are well formed, those in memory and those in storage. -/
structure Sound (s : Store) : Prop where
  memory : ∀ name nodes, s.memory? name = some nodes → Node.WellListed nodes
  cells : ∀ cell text, s.disk.cells.get? cell = some text →
    ∃ nodes, Node.WellListed nodes ∧ text = Node.writeList nodes

theorem sound_empty : (fresh .empty).Sound := by
  refine ⟨fun name nodes known => ?_, fun cell text stored => ?_⟩
  · cases name <;> cases known
  · cases stored

namespace Sound

variable {s : Store}

/-- The store may be opened again, and storage may fail at other things from now on. -/
theorem reopen (sound : s.Sound) (faults : Faults) : (fresh { s.disk with faults }).Sound := by
  refine ⟨fun name nodes known => ?_, sound.cells⟩
  cases name <;> cases known

theorem fail (sound : s.Sound) (faults : Faults) :
    Sound { s with disk := { s.disk with faults } } := by
  refine ⟨fun name nodes known => sound.memory name nodes ?_, sound.cells⟩
  cases name <;> exact known

theorem load (sound : s.Sound) (cell : Bytes) : Node.WellListed (Store.load s.disk cell) := by
  unfold Store.load Disk.get
  split
  · rename_i text stored
    split at stored
    · cases stored
    · obtain ⟨nodes, well, rfl⟩ := sound.cells cell text (Except.ok.inj stored)
      rw [well.readList_writeList]
      exact well
  · exact .nil
  · exact .nil

/-- **Every list that is asked for is well formed.** -/
theorem view (sound : s.Sound) (name : ListName) : Node.WellListed (s.view name) := by
  rw [view_eq]
  cases known : s.memory? name with
  | some nodes => exact sound.memory name nodes known
  | none => exact sound.load name.cell

theorem note (sound : s.Sound) (name : ListName) : (s.note name).Sound := by
  refine ⟨fun other nodes known => ?_, fun cell text stored => ?_⟩
  · rw [memory?_note] at known
    split at known
    · obtain rfl := Option.some.inj known
      exact sound.view name
    · exact sound.memory other nodes known
  · rw [disk_note] at stored
    exact sound.cells cell text stored

theorem set (sound : s.Sound) {nodes : List Node} (well : Node.WellListed nodes)
    (name : ListName) : (s.set nodes name).Sound := by
  refine ⟨fun other found known => ?_, fun cell text stored => ?_⟩
  · rw [memory?_set] at known
    split at known
    · obtain rfl := Option.some.inj known
      exact well
    · exact sound.memory other found known
  · rw [disk_set, get?_persist] at stored
    split at stored
    · exact ⟨nodes, well, (Option.some.inj stored).symm⟩
    · exact sound.cells cell text stored

end Sound
end Store

/-! ### Operations -/

/-- The client's store is in order. -/
def Client.Sound (c : Client ω) : Prop := c.store.Sound

theorem Errand.sound {timed : Prop} {c d : Client ω} (errand : Errand timed c d) (sound : c.Sound) :
    d.Sound := by
  cases errand with
  | looks => exact Store.Sound.note sound .pool
  | refills usable => exact Store.Sound.set sound (SeedSource.wellListed_readAnswer usable) .pool
  | drops key =>
    exact Store.Sound.set sound ((Store.Sound.view sound .pool).sublist List.filter_sublist) .pool
  | aside => exact sound
  | tells => exact sound

/-- Work that leaves the store in order at every pause and at its end, if it finds it so, and whose
answer has a property. -/
abbrev Work.Orderly (p : α → Prop) (work : Work ω α) : Prop := Job.Maintains Client.Sound p work

/-- An operation that leaves the store in order, and whose answer has a property. -/
def Act.Orderly (p : α → Prop) (act : Act ω α) : Prop :=
  ∀ c, c.Sound → (act c).2.Sound ∧ p (act c).1

/-- Nothing is said of an answer. -/
abbrev Anything (_ : α) : Prop := True

/-- A usable answer is a well-formed list. -/
def Listed (answer : Except DirectoryFailure (List Node)) : Prop :=
  ∀ nodes, answer = .ok nodes → Node.WellListed nodes

theorem listed_error (e : DirectoryFailure) : Listed (.error e) := nofun

theorem listed_ok {nodes : List Node} (well : Node.WellListed nodes) : Listed (.ok nodes) :=
  fun _ isOk => Except.ok.inj isOk ▸ well

namespace Act

variable {act : Act ω α}

theorem Orderly.bind {f : α → Act ω β} (first : Orderly p act) (next : ∀ a, p a → Orderly q (f a)) :
    Orderly q (act >>= f) :=
  fun c sound => next _ (first c sound).2 _ (first c sound).1

theorem orderly_pure {a : α} (holds : p a) : Orderly p (pure a : Act ω α) :=
  fun _ sound => ⟨sound, holds⟩

theorem Errands.orderly (errands : Errands True act) : Orderly Anything act :=
  fun _ sound => ⟨errands.preserves (fun _ _ errand => errand.sound) sound, trivial⟩

/-- What has nothing to do with the store leaves it in order. -/
theorem Keeps.orderly (kept : Keeps Client.store act) : Orderly Anything act := by
  refine fun c sound => ⟨?_, trivial⟩
  rw [Client.Sound, kept]
  exact sound

theorem orderly_get : Orderly Anything (get : Act ω (Client ω)) := Keeps.orderly fun _ => rfl

theorem orderly_pool : Orderly Node.WellListed (pool : Act ω (List Node)) :=
  fun _ sound => ⟨Store.Sound.note sound .pool, Store.Sound.view sound .pool⟩

theorem orderly_swarm (account : String) :
    Orderly Node.WellListed (swarm account : Act ω (List Node)) :=
  fun _ sound => ⟨Store.Sound.note sound (.swarm account), Store.Sound.view sound (.swarm account)⟩

theorem orderly_setPool {nodes : List Node} (well : Node.WellListed nodes) :
    Orderly Anything (setPool nodes : Act ω Unit) :=
  fun _ sound => ⟨Store.Sound.set sound well .pool, trivial⟩

theorem orderly_setSwarm (account : String) {nodes : List Node} (well : Node.WellListed nodes) :
    Orderly Anything (setSwarm account nodes : Act ω Unit) :=
  fun _ sound => ⟨Store.Sound.set sound well (.swarm account), trivial⟩

end Act

open Act (Errands)

/-! ### The pool -/

namespace SeedSource

theorem orderly_refresh (source : SeedSource ω) : source.refresh.Orderly Listed := by
  refine (Act.errands_ofDice _).orderly.bind fun seed _ => ?_
  cases seed with
  | none => exact Act.orderly_pure (listed_error _)
  | some seed =>
    refine (Act.errands_ofOutside _).orderly.bind fun answer _ => ?_
    cases read : readAnswer seed answer with
    | error e => exact Act.orderly_pure (listed_error e)
    | ok nodes =>
      have well := wellListed_readAnswer read
      exact (Act.orderly_setPool well).bind fun _ _ => Act.orderly_pure (listed_ok well)

theorem orderly_ensure (source : SeedSource ω) : source.ensure.Orderly Listed := by
  refine Act.orderly_pool.bind fun pool well => ?_
  split
  · exact Act.orderly_pure (listed_ok well)
  · exact source.orderly_refresh

theorem orderly_randomNode (source : SeedSource ω) :
    source.randomNode.Orderly fun answer => ∀ n, answer = .ok n → n.WellFormed := by
  refine source.orderly_ensure.bind fun pool listed => ?_
  cases pool with
  | error e => exact Act.orderly_pure nofun
  | ok pool =>
    have picks : (Act.ofDice (·.pick? pool) : Act ω (Option Node)).Orderly
        fun picked => ∀ n, picked = some n → n ∈ pool :=
      fun c sound => ⟨sound, fun n picked => Dice.mem_of_pick? picked⟩
    refine picks.bind fun picked member => ?_
    cases picked with
    | none => exact Act.orderly_pure nofun
    | some n =>
      refine Act.orderly_pure fun m isOk => ?_
      obtain rfl := Except.ok.inj isOk
      exact (listed pool rfl).each n (member n rfl)

end SeedSource

/-! ### Calls to nodes -/

theorem Job.orderly_of {act : Act ω α} (kept : act.Orderly p) : Work.Orderly p (Job.ofAction act) :=
  Job.maintains_ofAction kept

/-- Attempts leave the store in order, if each of them does. -/
theorem Retry.orderly_attempts {attempt : Work ω (Except ApiFailure α)} {pause : Work ω Unit}
    (each : attempt.Orderly Anything) (between : pause.Orderly Anything) (more : Nat) :
    Work.Orderly Anything (attempts attempt pause more) := by
  induction more with
  | zero => exact each
  | succ more ih =>
    refine each.bind fun result _ => ?_
    cases result with
    | ok value => exact Job.maintains_pure trivial
    | error failure =>
      dsimp only
      split
      · exact Job.maintains_pure trivial
      · exact between.bind fun _ _ => ih

namespace Retrying

theorem orderly_pause (backoff : Backoff) : (pause backoff : Work ω Unit).Orderly Anything := by
  refine (Job.orderly_of (Act.errands_ofDice _).orderly).bind fun delay _ => ?_
  split
  · exact Job.maintains_wait _
  · exact Job.maintains_pure trivial

theorem orderly_send {Request Answer : Type} (policy : RetryPolicy)
    {inner : Request → Work ω (Except ApiFailure Answer)} {request : Request}
    (each : (inner request).Orderly Anything) :
    (send policy inner request).Orderly Anything := by
  exact (Job.orderly_of Act.orderly_get).bind fun _ _ =>
    Retry.orderly_attempts each (orderly_pause _) _

end Retrying

namespace NodeApi

variable {rpc : NodeRpc ω} {resync : Act ω Bool}

theorem orderly_onFailure (search : resync.Orderly Anything) (drops : Bool) (n : Node)
    (failure : ApiFailure) : (onFailure resync drops n failure).Orderly Anything := by
  unfold onFailure
  split
  · refine Act.orderly_get.bind fun c _ => ?_
    split
    · exact Act.orderly_pure trivial
    · refine (Act.Keeps.orderly fun _ => rfl).bind fun _ _ => ?_
      exact search.bind fun _ _ => Act.orderly_pure trivial
  · split
    · have dropped := (Paths.errands_dropKey (ω := ω) n.key).orderly
      exact dropped.bind fun _ _ => Act.orderly_pure trivial
    · exact Act.orderly_pure trivial

theorem orderly_send (below : ∀ n call, (rpc n call).Orderly Anything)
    (search : resync.Orderly Anything) (drops : Bool) (n : Node) (call : NodeCall) :
    (send rpc resync drops n call).Orderly Anything := by
  refine (Job.orderly_of (below n call)).bind fun answer _ => ?_
  cases answer with
  | ok reply =>
    refine (Job.orderly_of (Act.Keeps.orderly fun _ => rfl)).bind fun _ _ => ?_
    split
    · exact Job.maintains_pure trivial
    · exact Job.maintains_pure trivial
  | error failure =>
    exact (Job.orderly_of (orderly_onFailure search drops n failure)).bind fun _ _ =>
      Job.maintains_pure trivial

end NodeApi

namespace Network

variable (n : Network ω)

theorem orderly_nodeApiOnce (node : Node) (call : NodeCall) :
    (n.nodeApiOnce node call).Orderly Anything :=
  NodeApi.orderly_send (fun node call => (n.errands_rpc node call).orderly)
    n.errands_resync.orderly true node call

theorem orderly_nodeApi (node : Node) (call : NodeCall) :
    (n.nodeApi node call).Orderly Anything :=
  Retrying.orderly_send n.config.retry (n.orderly_nodeApiOnce node call)

end Network

/-- A call of its own leaves the store in order, too. -/
theorem Work.Orderly.apart {work : Work ω α} (kept : work.Orderly p) :
    (Work.apart work).Orderly p :=
  Work.maintains_apart (fun _ _ sound => sound) kept

/-! ### Swarms -/

namespace SwarmSource

variable {source : SwarmSource ω}

theorem orderly_fetch (asking : ∀ n call, (source.ask n call).Orderly Anything)
    (account : String) : (source.fetch account).Orderly Listed := by
  refine (Job.orderly_of source.pool.orderly_randomNode).bind fun picked _ => ?_
  cases picked with
  | error e => exact Job.maintains_pure (listed_error e)
  | ok n =>
    refine (asking n (.findSwarm account)).apart.bind fun reply _ => ?_
    cases reply with
    | error e => exact Job.maintains_pure (listed_error _)
    | ok reply =>
      dsimp only
      cases read : Swarm.ofReply? reply with
      | none => exact Job.maintains_pure (listed_error _)
      | some nodes => exact Job.maintains_pure (listed_ok (Swarm.wellListed_ofReply? read))

theorem orderly_get (asking : ∀ n call, (source.ask n call).Orderly Anything)
    (account : String) : (source.get account).Orderly Listed := by
  refine (Job.orderly_of (Act.orderly_swarm account)).bind fun known well => ?_
  split
  · exact Job.maintains_pure (listed_ok well)
  · refine (orderly_fetch asking account).bind fun fetched listed => ?_
    cases fetched with
    | error e => exact Job.maintains_pure (listed_error e)
    | ok nodes =>
      dsimp only
      split
      · exact Job.maintains_pure (listed_error _)
      · have well := listed nodes rfl
        exact (Job.orderly_of (Act.orderly_setSwarm account well)).bind fun _ _ =>
          Job.maintains_pure (listed_ok well)

theorem orderly_replaceFrom (account : String) (body : Option Bytes) :
    (replaceFrom account body : Act ω Bool).Orderly Anything := by
  have well := Swarm.wellListed_ofBody body
  unfold replaceFrom
  split
  · exact Act.orderly_pure trivial
  · exact (Act.orderly_setSwarm account well).bind fun _ _ => Act.orderly_pure trivial

theorem orderly_drop (n : Node) (account : String) :
    (drop n account : Act ω Unit).Orderly Anything := by
  refine (Act.orderly_swarm account).bind fun swarm well => ?_
  split
  · exact Act.orderly_setSwarm account (well.sublist List.filter_sublist)
  · exact Act.orderly_pure trivial

theorem orderly_target (asking : ∀ n call, (source.ask n call).Orderly Anything)
    (account : String) : (source.target account).Orderly Anything := by
  refine (orderly_get asking account).bind fun swarm _ => ?_
  cases swarm with
  | error e => exact Job.maintains_pure trivial
  | ok swarm =>
    refine (Job.orderly_of (Act.Keeps.orderly fun _ => rfl)).bind fun picked _ => ?_
    cases picked with
    | none => exact Job.maintains_pure trivial
    | some n => exact Job.maintains_pure trivial

end SwarmSource

/-! ### Calls to swarms -/

namespace SwarmApi

variable {source : SwarmSource ω} {api : NodeApi ω}

theorem orderly_target (asking : ∀ n call, (source.ask n call).Orderly Anything)
    (call : SwarmCall) : (target source call).Orderly Anything := by
  refine (Job.orderly_of Act.orderly_get).bind fun c _ => ?_
  split
  · exact Job.maintains_pure trivial
  · split
    · exact Job.maintains_pure trivial
    · refine (SwarmSource.orderly_target asking call.account).bind fun picked _ => ?_
      cases picked with
      | error e => exact Job.maintains_pure trivial
      | ok n =>
        exact (Job.orderly_of (Act.Keeps.orderly fun _ => rfl)).bind fun _ _ =>
          Job.maintains_pure trivial

theorem orderly_onMembership (call : SwarmCall) (n : Node) (body : Option Bytes)
    (failure : ApiFailure) :
    (onMembership call n body failure : Act ω ApiFailure).Orderly Anything := by
  refine (SwarmSource.orderly_replaceFrom call.account body).bind fun usable _ => ?_
  have unpinned : Act.Orderly Anything
      (modify fun c => { c with notes := c.notes.erase .pinnedNode } : Act ω PUnit) :=
    Act.Keeps.orderly fun _ => rfl
  cases usable with
  | true => exact unpinned.bind fun _ _ => Act.orderly_pure trivial
  | false =>
    exact (SwarmSource.orderly_drop n call.account).bind fun _ _ =>
      unpinned.bind fun _ _ => Act.orderly_pure trivial

theorem orderly_send (asking : ∀ n call, (source.ask n call).Orderly Anything)
    (below : ∀ n call, (api n call).Orderly Anything) (call : SwarmCall) :
    (send source api call).Orderly Anything := by
  refine (orderly_target asking call).bind fun picked _ => ?_
  cases picked with
  | error e => exact Job.maintains_pure trivial
  | ok n =>
    refine (below n call.call).bind fun answer _ => ?_
    cases answer with
    | ok v => exact Job.maintains_pure trivial
    | error failure =>
      dsimp only
      split
      · exact Job.maintains_pure trivial
      · exact (Job.orderly_of (orderly_onMembership call n _ failure)).bind fun _ _ =>
          Job.maintains_pure trivial

end SwarmApi

theorem Batching.orderly_send {Request Item Answer : Type} (rules : Batch.Rules Request Item Answer)
    {inner : Request → Work ω (Except ApiFailure Answer)}
    (each : ∀ request, (inner request).Orderly Anything) (window : Nat) (request : Request) :
    (send rules inner window request).Orderly Anything := by
  unfold send
  split
  · exact each request
  · rename_i key _
    have batch : (sendBatch rules inner window ⟨key, [⟨0, request⟩]⟩).Orderly Anything := by
      refine (Job.maintains_wait window).bind fun _ _ => ?_
      unfold Batch.execute
      dsimp only
      split
      · exact Job.maintains_pure trivial
      · exact (each _).apart.bind fun _ _ => Job.maintains_pure trivial
    exact batch.bind fun _ _ => Job.maintains_pure trivial

namespace Network

theorem orderly_swarmApi (n : Network ω) (call : SwarmCall) :
    (n.swarmApi call).Orderly Anything :=
  Batching.orderly_send _ (fun request => Retrying.orderly_send n.config.retry
    (SwarmApi.orderly_send n.orderly_nodeApi n.orderly_nodeApiOnce request)) n.window call

end Network
end OnionSwarm

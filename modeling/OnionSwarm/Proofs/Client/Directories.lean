/-
What the directories hold over every run.

A run begins with empty storage.  Then operations begin, in any number and at any time; those that
wait go on in any order; storage begins to fail, or fails no more; and the client is started again
with what is in storage, which is the end of all work that waits.  No list that anybody sees at any
time is out of order, because no step spoils the store or what waiting work will do with it
(`Step.sound`).
-/
import OnionSwarm.Proofs.Client.Orderly
import OnionSwarm.Proofs.Client.Membership

namespace OnionSwarm.Network

variable {ω : Type} {n : Network ω}

/-- What is done with the directories, or makes the client do something with them. -/
inductive Operation where
  /-- The pool is looked at. -/
  | pool
  /-- The pool is wanted, and may be too small. -/
  | ensure
  | refresh
  | randomNode
  | dropKey (key : String)
  /-- A swarm is looked at. -/
  | known (account : String)
  /-- A swarm is wanted, and may be too small. -/
  | swarm (account : String)
  /-- A swarm is replaced by the list in the body of a refusal. -/
  | replaceFrom (account : String) (body : Option Bytes)
  | drop (m : Node) (account : String)
  | toNode (m : Node) (call : NodeCall)
  | toSwarm (call : SwarmCall)

/-- Does an operation, and answers with the lists that it hands out. -/
def Operation.work (n : Network ω) : Operation → Work ω (List (List Node))
  | .pool => do return [← .ofAction Act.pool]
  | .ensure => do return (← .ofAction n.pool.ensure).toOption.toList
  | .refresh => do return (← .ofAction n.pool.refresh).toOption.toList
  | .randomNode => do return ((← .ofAction n.pool.randomNode).toOption.map ([·])).toList
  | .dropKey key => do
    .ofAction (SeedSource.dropKey key)
    return []
  | .known account => do return [← .ofAction (Act.swarm account)]
  | .swarm account => do return (← n.swarms.get account).toOption.toList
  | .replaceFrom account body => do
    let _ ← .ofAction (SwarmSource.replaceFrom account body)
    return []
  | .drop m account => do
    .ofAction (SwarmSource.drop m account)
    return []
  | .toNode m call => do
    let _ ← n.nodeApi m call
    return []
  | .toSwarm call => do
    let _ ← n.swarmApi call
    return []

/-- A client at some moment, the work that waits, and all lists that were handed out. -/
structure Scene (ω : Type) where
  client : Client ω
  waiting : List (Client ω → Progress (Client ω) (List (List Node)))
  shown : List (List Node)

/-- The scene after some work went on, to its next pause or to its end. -/
def Scene.after (scene : Scene ω) : Progress (Client ω) (List (List Node)) → Scene ω
  | .done lists c => ⟨c, scene.waiting, lists ++ scene.shown⟩
  | .waits _ c rest => ⟨c, rest :: scene.waiting, scene.shown⟩

/-- What can happen. -/
inductive Step (n : Network ω) : Scene ω → Scene ω → Prop
  | begins (scene : Scene ω) (op : Operation) : Step n scene (scene.after (op.work n scene.client))
  /-- Any work that waits goes on, as long as it may have waited. -/
  | resumes (scene : Scene ω) {before after : List (Client ω → Progress (Client ω) (List (List Node)))}
      {rest : Client ω → Progress (Client ω) (List (List Node))}
      (waited : scene.waiting = before ++ rest :: after) :
      Step n scene ({ scene with waiting := before ++ after }.after (rest scene.client))
  /-- From now on storage fails at other things. -/
  | fails (scene : Scene ω) (faults : Faults) :
      Step n scene { scene with client := { scene.client with
        store := { scene.client.store with disk := { scene.client.store.disk with faults } } } }
  /-- The client ends, and another one begins with the same storage. -/
  | restarts (scene : Scene ω) (faults : Faults) (dice : Dice) (outside : ω) :
      Step n scene ⟨.start { scene.client.store.disk with faults } dice outside, [], scene.shown⟩
  /-- Anything else happens. -/
  | aside (scene : Scene ω) {c : Client ω} (same : c.store = scene.client.store) :
      Step n scene { scene with client := c }

/-- The scenes that are reached from empty storage. -/
inductive Reachable (n : Network ω) : Scene ω → Prop
  | starts (dice : Dice) (outside : ω) : Reachable n ⟨.start .empty dice outside, [], []⟩
  | step {scene later : Scene ω} (before : Reachable n scene) (step : Step n scene later) :
      Reachable n later

/-- A list was handed out, or can be looked at now. -/
def Scene.Visible (scene : Scene ω) (nodes : List Node) : Prop :=
  nodes ∈ scene.shown ∨ nodes = scene.client.store.viewPool ∨
    ∃ account, nodes = scene.client.store.viewSwarm account

/-! ### Every run keeps the lists well formed -/

/-- Lists that are all well formed. -/
def AllListed (lists : List (List Node)) : Prop := ∀ nodes ∈ lists, Node.WellListed nodes

theorem allListed_toOption {answer : Except DirectoryFailure (List Node)} (listed : Listed answer) :
    AllListed answer.toOption.toList := by
  cases answer with
  | error e => exact nofun
  | ok nodes =>
    intro found mem
    obtain rfl := List.mem_singleton.1 mem
    exact listed found rfl

theorem Operation.orderly (n : Network ω) (op : Operation) : (op.work n).Orderly AllListed := by
  have single {nodes : List Node} (well : Node.WellListed nodes) : AllListed [nodes] :=
    fun found mem => List.mem_singleton.1 mem ▸ well
  have none : AllListed [] := nofun
  -- an operation hands out a list, a single node, or nothing
  cases op with
  | pool =>
    exact (Job.orderly_of Act.orderly_pool).bind fun _ well => Job.maintains_pure (single well)
  | ensure =>
    exact (Job.orderly_of n.pool.orderly_ensure).bind fun _ listed =>
      Job.maintains_pure (allListed_toOption listed)
  | refresh =>
    exact (Job.orderly_of n.pool.orderly_refresh).bind fun _ listed =>
      Job.maintains_pure (allListed_toOption listed)
  | randomNode =>
    refine (Job.orderly_of n.pool.orderly_randomNode).bind fun answer formed => ?_
    cases answer with
    | error e => exact Job.maintains_pure none
    | ok m => exact Job.maintains_pure (single (.singleton (formed m rfl)))
  | dropKey key =>
    have dropped := (SeedSource.errands_dropKey (ω := ω) key).orderly
    exact (Job.orderly_of dropped).bind fun _ _ => Job.maintains_pure none
  | known account =>
    exact (Job.orderly_of (Act.orderly_swarm account)).bind fun _ well =>
      Job.maintains_pure (single well)
  | swarm account =>
    exact (SwarmSource.orderly_get n.orderly_nodeApi account).bind fun _ listed =>
      Job.maintains_pure (allListed_toOption listed)
  | replaceFrom account body =>
    exact (Job.orderly_of (SwarmSource.orderly_replaceFrom account body)).bind fun _ _ =>
      Job.maintains_pure none
  | drop m account =>
    exact (Job.orderly_of (SwarmSource.orderly_drop m account)).bind fun _ _ =>
      Job.maintains_pure none
  | toNode m call => exact (n.orderly_nodeApi m call).bind fun _ _ => Job.maintains_pure none
  | toSwarm call => exact (n.orderly_swarmApi call).bind fun _ _ => Job.maintains_pure none

namespace Scene

/-- All is well: in the store, whatever the work that waits will find, and with what was handed
out. -/
structure Sound (scene : Scene ω) : Prop where
  client : scene.client.Sound
  waiting : ∀ rest ∈ scene.waiting, Job.Maintains Client.Sound AllListed rest
  shown : AllListed scene.shown

variable {scene : Scene ω}

theorem Sound.after {work : Progress (Client ω) (List (List Node))} (sound : scene.Sound)
    (kept : work.Maintains Client.Sound AllListed) : (scene.after work).Sound := by
  cases work with
  | done lists c =>
    refine ⟨kept.1, sound.waiting, fun nodes mem => ?_⟩
    rcases List.mem_append.1 mem with new | old
    · exact kept.2 nodes new
    · exact sound.shown nodes old
  | waits delay c rest =>
    refine ⟨kept.1, fun other mem => ?_, sound.shown⟩
    rcases List.mem_cons.1 mem with rfl | old
    · exact kept.2
    · exact sound.waiting other old

theorem Sound.view (sound : scene.Sound) {nodes : List Node} (visible : scene.Visible nodes) :
    Node.WellListed nodes := by
  rcases visible with shown | rfl | ⟨account, rfl⟩
  · exact sound.shown nodes shown
  · exact Store.Sound.view sound.client .pool
  · exact Store.Sound.view sound.client (.swarm account)

end Scene

theorem Step.sound {scene later : Scene ω} (step : Step n scene later) (sound : scene.Sound) :
    later.Sound := by
  cases step with
  | begins op => exact sound.after (op.orderly n _ sound.client)
  | resumes waited =>
    rename_i before after rest
    have among := sound.waiting
    rw [waited] at among
    have others : Scene.Sound { scene with waiting := before ++ after } :=
      ⟨sound.client, fun other mem => among other (by simp at mem ⊢; tauto), sound.shown⟩
    exact others.after (among rest (by simp) _ sound.client)
  | fails faults => exact ⟨Store.Sound.fail sound.client faults, sound.waiting, sound.shown⟩
  | restarts faults dice outside =>
    exact ⟨Store.Sound.reopen sound.client faults, nofun, sound.shown⟩
  | aside same =>
    refine ⟨?_, sound.waiting, sound.shown⟩
    rw [Client.Sound, same]
    exact sound.client

theorem Reachable.sound {scene : Scene ω} (reachable : Reachable n scene) : scene.Sound := by
  induction reachable with
  | starts dice outside => exact ⟨Store.sound_empty, nofun, nofun⟩
  | step _ step ih => exact step.sound ih

/-- **Everything that the directories hold is well formed.**  Whatever seeds and nodes answer,
wherever storage fails, however the work is mixed and whenever the client is started again: every
list that is handed out or looked at holds no node twice, every node in it is well formed, and its
key for layers can be read. -/
theorem visible_well_formed {scene : Scene ω} (reachable : Reachable n scene) {nodes : List Node}
    (visible : scene.Visible nodes) :
    Distinct nodes ∧ ∀ m ∈ nodes, m.WellFormed ∧
      ∃ key, m.layerKey = .ok key ∧ key.length = 32 := by
  have well := reachable.sound.view visible
  exact ⟨well.distinct, fun m mem => ⟨well.each m mem, (well.each m mem).x25519.readKey⟩⟩

/-! ### A list that storage does not take -/

/-- An entry of a stranger, with its keys in upper case. -/
def trialEntry (digit : Char) : Json :=
  let key := String.ofList (List.replicate 64 digit)
  .object [("ip", .text "10.0.0.1"), ("port", .text "+22"), ("pubkey_ed25519", .text key),
    ("pubkey_x25519", .text key)]

/-- A refusal with a list in which a node comes twice. -/
def trialReply : Json := .object [("snodes", .array [trialEntry 'A', .null, trialEntry 'B'])]

/-- The node in the list. -/
def trialListed : Node :=
  let key := String.ofList (List.replicate 64 'a')
  ⟨"https://10.0.0.1", 22, ⟨key, key⟩, ⟨0, 0, 0⟩⟩

theorem ofBody_of_kept {v : Json} (kept : Json.Kept Json.deepest v) {nodes : List Node}
    (read : Swarm.ofReply? v = some nodes) : Swarm.ofBody (some v.toBytes) = nodes := by
  simp only [Swarm.ofBody, Json.parse_toBytes kept, read, Option.getD_some]

theorem ofBody_trialReply : Swarm.ofBody (some trialReply.toBytes) = [trialListed] := by
  have kept : Json.Kept Json.deepest trialReply := by
    refine ⟨by decide, ⟨⟨by decide, ?_⟩, trivial, ⟨by decide, ?_⟩, trivial⟩, trivial⟩
    · exact ⟨trivial, trivial, trivial, trivial, trivial⟩
    · exact ⟨trivial, trivial, trivial, trivial, trivial⟩
  exact ofBody_of_kept kept (by decide +kernel)

/-- Any usable list may become visible, also while storage takes nothing. -/
theorem exists_visible (n : Network ω) (outside : ω) {body : Option Bytes} {m : Node}
    {rest : List Node} (usable : Swarm.ofBody body = m :: rest) :
    ∃ scene, Reachable n scene ∧ scene.client.store.disk.faults.put = true ∧
      scene.Visible (m :: rest) := by
  let failing : Client ω := { Client.start .empty .zero outside with
    store := .fresh { Disk.empty with faults := ⟨true, false, false, false⟩ } }
  have reachable : Reachable n ⟨failing, [], []⟩ :=
    .step (.starts .zero outside) (.fails _ ⟨true, false, false, false⟩)
  refine ⟨_, reachable.step (.begins _ (.replaceFrom "05aa" body)), ?_, .inr (.inr ⟨"05aa", ?_⟩)⟩
  all_goals simp only [Operation.work, SwarmSource.replaceFrom, usable]
  · rfl
  · exact (Store.viewSwarm_setSwarm_self _ _ _).symm

theorem visible_well_formed_trialReply :
    ∃ scene, Reachable (SwarmApi.trialNetwork SwarmApi.refusal) scene ∧
      scene.Visible [trialListed] ∧ trialListed.WellFormed := by
  obtain ⟨scene, reachable, -, visible⟩ :=
    exists_visible (SwarmApi.trialNetwork SwarmApi.refusal) () ofBody_trialReply
  obtain ⟨-, each⟩ := visible_well_formed reachable visible
  exact ⟨scene, reachable, visible, (each trialListed List.mem_cons_self).1⟩

end OnionSwarm.Network

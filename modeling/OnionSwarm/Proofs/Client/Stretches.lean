/-
Work that changes a view of the client in its last stretch only.

Others may change what work finds after a pause, so what it does has to be said stretch by stretch.
A call to a node never changes the swarms or the picks, in none of its stretches, nor anything else
that its errands and the notes have nothing to do with (`Client.Aloof`); an operation on the swarm of
an account may have to make such a call first, and changes them in the one stretch that comes after
it.  So what such an operation does is said as if it were done at once, at its end (`Job.Makes`).
-/
import OnionSwarm.Client.Network
import OnionSwarm.Proofs.Client.Membership
import OnionSwarm.Proofs.Client.Orderly
import OnionSwarm.Proofs.Directory.Rounds

namespace OnionSwarm

variable {σ ω α β γ : Type} {view : σ → γ} {p : γ → α → γ → Prop} {q : γ → β → γ → Prop}

namespace Progress

/-- Every stretch but the last leaves the view as it was; the last one makes of the view that it
finds, by `p`, an answer and the view that it leaves.  The stretch that has begun found `before`. -/
def Makes (view : σ → γ) (p : γ → α → γ → Prop) (before : γ) : Progress σ α → Prop
  | .done a s => p before a (view s)
  | .waits _ s rest => view s = before ∧ ∀ now, (rest now).Makes view p (view now)

theorem Makes.mono {p' : γ → α → γ → Prop} {work : Progress σ α} {before : γ}
    (makes : work.Makes view p before) (weaker : ∀ before a after, p before a after → p' before a after) :
    work.Makes view p' before := by
  induction work generalizing before with
  | done a s => exact weaker before a (view s) makes
  | waits delay s rest ih => exact ⟨makes.1, fun now => ih now (makes.2 now)⟩

theorem Makes.andThen {work : Progress σ α} {next : α → Job σ β} {before : γ}
    (makes : work.Makes view p before)
    (each : ∀ before a s, p before a (view s) → (next a s).Makes view q before) :
    (work.andThen next).Makes view q before := by
  induction work generalizing before with
  | done a s => exact each before a s makes
  | waits delay s rest ih => exact ⟨makes.1, fun now => ih now (makes.2 now)⟩

end Progress

namespace Job

/-- The job makes of the view, at its end, an answer and the view that it leaves. -/
def Makes (view : σ → γ) (p : γ → α → γ → Prop) (job : Job σ α) : Prop :=
  ∀ s, (job s).Makes view p (view s)

/-- The job leaves the view as it is, in all its stretches. -/
def Leaves (view : σ → γ) (job : Job σ α) : Prop := job.Makes view fun before _ after => after = before

variable {job : Job σ α} {next : α → Job σ β}

theorem makes_ofAction {act : StateM σ α} (each : ∀ s, p (view s) (act s).1 (view (act s).2)) :
    (ofAction act).Makes view p := each

/-- What an action does belongs to the stretch in which it stands. -/
theorem makes_action_bind {act : StateM σ α} {s s' : σ} {a : α} {before : γ}
    (did : act s = (a, s')) (rest : (next a s').Makes view q before) :
    ((ofAction act >>= next) s).Makes view q before := by
  have going : (next (act s).1 (act s).2).Makes view q before := by
    rw [did]
    exact rest
  exact going

theorem leaves_pure (a : α) : (pure a : Job σ α).Leaves view := fun _ => rfl

theorem leaves_wait (delay : Nat) : (wait delay : Job σ Unit).Leaves view :=
  fun _ => ⟨rfl, fun _ => rfl⟩

/-- What comes after a job that leaves the view makes of it what it would make at once. -/
theorem Leaves.bind (leaves : job.Leaves view) (each : ∀ a, (next a).Makes view q) :
    (job >>= next).Makes view q := by
  refine fun s => (leaves s).andThen fun before a s same => ?_
  rw [← same]
  exact each a s

end Job

/-- A call of its own leaves what has nothing to do with notes. -/
theorem Work.leaves_apart {view : Client ω → γ} (blind : ∀ c notes, view { c with notes } = view c)
    {work : Work ω α} (leaves : work.Leaves view) : (apart work).Leaves view := by
  have going : ∀ (others : CallNotes) (work : Progress (Client ω) α) (before : γ),
      work.Makes view (fun before _ after => after = before) before →
      (keep others work).Makes view (fun before _ after => after = before) before := by
    intro others work
    induction work generalizing others with
    | done a c => exact fun before leaves => (blind c others).trans leaves
    | waits delay c rest ih =>
      refine fun before leaves => ⟨(blind c others).trans leaves.1, fun now => ?_⟩
      refine ih _ _ _ ?_
      rw [← blind now c.notes]
      exact leaves.2 _
  intro c
  rw [← blind c .empty]
  exact going c.notes _ _ (leaves _)

theorem Act.Keeps.leaves {view : Client ω → γ} {act : Act ω α} (kept : Act.Keeps view act) :
    Job.Leaves view (.ofAction act) := Job.makes_ofAction kept

/-! ### Calls to nodes -/

section Calls

variable {view : Client ω → γ}

theorem Retry.leaves_attempts {attempt : Work ω (Except ApiFailure α)} {pause : Work ω Unit}
    (each : attempt.Leaves view) (between : pause.Leaves view) (more : Nat) :
    Job.Leaves view (attempts attempt pause more) := by
  induction more with
  | zero => exact each
  | succ more ih =>
    refine each.bind fun result => ?_
    cases result with
    | ok value => exact Job.leaves_pure _
    | error failure =>
      dsimp only
      split
      · exact Job.leaves_pure _
      · exact between.bind fun _ => ih

/-- No errand changes the view, and the notes have nothing to do with it. -/
structure Client.Aloof (view : Client ω → γ) : Prop where
  errand : ∀ {c d}, Errand True c d → view d = view c
  notes : ∀ c notes, view { c with notes } = view c

namespace Client.Aloof

variable (aloof : Client.Aloof view)
include aloof

theorem keeps {act : Act ω α} (errands : Act.Errands True act) : Act.Keeps view act :=
  errands.keeps fun _ _ errand => aloof.errand errand

theorem leaves_pause (backoff : Backoff) :
    Job.Leaves view (Retrying.pause backoff : Work ω Unit) := by
  refine (aloof.keeps (Act.errands_ofDice backoff.delay)).leaves.bind fun delay => ?_
  split
  · exact Job.leaves_wait _
  · exact Job.leaves_pure _

theorem keeps_onFailure {resync : Act ω Bool} (search : Act.Keeps view resync) (drops : Bool)
    (node : Node) (failure : ApiFailure) :
    Act.Keeps view (NodeApi.onFailure resync drops node failure) := by
  unfold NodeApi.onFailure
  refine .ite (.bind (fun _ => rfl) fun _ => ?_) (.ite ?_ (.pure _))
  · refine .ite (.pure _) (.bind (fun c => aloof.notes c _) fun _ => search.bind fun _ => .pure _)
  · exact (aloof.keeps (Paths.errands_dropKey node.key)).bind fun _ => .pure _

variable (n : Network ω)

theorem leaves_nodeApiOnce (node : Node) (call : NodeCall) :
    (n.nodeApiOnce node call).Leaves view := by
  refine (aloof.keeps (n.errands_rpc node call)).leaves.bind fun answer => ?_
  cases answer with
  | ok reply =>
    have noted : Act.Keeps view (modify fun c => { c with notes := c.notes.erase .sawSkew }
      : Act ω PUnit) := fun c => aloof.notes c _
    refine noted.leaves.bind fun _ => ?_
    split
    · exact Job.leaves_pure _
    · exact Job.leaves_pure _
  | error failure =>
    have search := aloof.keeps n.errands_resync
    exact (aloof.keeps_onFailure search true node failure).leaves.bind fun _ => Job.leaves_pure _

theorem leaves_nodeApi (node : Node) (call : NodeCall) : (n.nodeApi node call).Leaves view := by
  have looked : Act.Keeps view (get : Act ω (Client ω)) := fun _ => rfl
  refine looked.leaves.bind fun _ => ?_
  exact Retry.leaves_attempts (aloof.leaves_nodeApiOnce n node call) (aloof.leaves_pause _) _

/-- Whatever a node says of a swarm, that is not yet the swarm of the client. -/
theorem makes_fetch (account : String) : (n.swarms.fetch account).Makes view
    fun before answer after => after = before ∧ Listed answer := by
  refine (aloof.keeps n.pool.errands_randomNode).leaves.bind fun picked => ?_
  cases picked with
  | error e => exact fun _ => ⟨rfl, listed_error _⟩
  | ok node =>
    have asked := Work.leaves_apart aloof.notes (aloof.leaves_nodeApi n node (.findSwarm account))
    refine asked.bind fun reply => ?_
    cases reply with
    | error e => exact fun _ => ⟨rfl, listed_error _⟩
    | ok reply =>
      dsimp only
      cases read : Swarm.ofReply? reply with
      | none => exact fun _ => ⟨rfl, listed_error _⟩
      | some nodes => exact fun _ => ⟨rfl, listed_ok (Swarm.wellListed_ofReply? read)⟩

end Client.Aloof

end Calls

/-! ### Operations on swarms -/

/-- What decides the picks of a client. -/
def Client.turns (c : Client ω) : Turns := ⟨c.swarms, c.rounds⟩

theorem Client.aloof_turns : Client.Aloof (Client.turns (ω := ω)) where
  errand errand := congrArg (fun bearings => Turns.mk bearings.1 bearings.2.2) errand.bearings
  notes _ _ := rfl

namespace SwarmSource

variable {c : Client ω} {account : String}

theorem turns_setSwarm (account : String) (nodes : List Node) (c : Client ω) :
    (Act.setSwarm account nodes c).2.turns = c.turns.renew account nodes := by
  rw [Client.turns, SwarmApi.swarms_setSwarm]
  rfl

theorem turns_noteSwarm (account : String) (c : Client ω) :
    { c with store := c.store.noteSwarm account }.turns = c.turns := by
  rw [Client.turns, SwarmApi.swarms_noteSwarm]
  rfl

/-- Asks for the swarm of an account. -/
def refetch (source : SwarmSource ω) (account : String) :
    Work ω (Except DirectoryFailure (List Node)) := do
  match ← source.fetch account with
  | .error e => return .error e
  | .ok nodes =>
    if nodes.length < source.minSwarm then return .error (.swarmTooSmall account nodes.length)
    else
      .ofAction (Act.setSwarm account nodes)
      return .ok nodes

theorem get_eq (source : SwarmSource ω) (account : String) (c : Client ω) :
    source.get account c =
      (if source.minSwarm ≤ (c.swarms account).length then pure (.ok (c.swarms account))
        else source.refetch account : Work ω (Except DirectoryFailure (List Node)))
        { c with store := c.store.noteSwarm account } := rfl

/-- A swarm that is too small is replaced, all at once at the end, or there is no answer. -/
theorem makes_refetch_of_aloof {view : Client ω → γ} (aloof : Client.Aloof view) (n : Network ω)
    (account : String) :
    (n.swarms.refetch account).Makes view fun before answer after =>
      match answer with
      | .ok nodes => n.swarms.minSwarm ≤ nodes.length ∧ Distinct nodes ∧
          ∃ c, view c = before ∧ view (Act.setSwarm account nodes c).2 = after
      | .error _ => after = before := by
  refine fun c => (aloof.makes_fetch n account c).andThen fun before answer c fetched => ?_
  obtain ⟨same, listed⟩ := fetched
  cases answer with
  | error e => exact same
  | ok nodes =>
    dsimp only
    split
    · exact same
    · rename_i enough
      exact ⟨Nat.le_of_not_lt enough, (listed nodes rfl).distinct, c, same, rfl⟩

theorem makes_refetch (n : Network ω) (account : String) :
    (n.swarms.refetch account).Makes Client.turns fun before answer after =>
      match answer with
      | .ok nodes => n.swarms.minSwarm ≤ nodes.length ∧ Distinct nodes ∧
          after = before.renew account nodes
      | .error _ => after = before := by
  refine fun c => (makes_refetch_of_aloof Client.aloof_turns n account c).mono ?_
  intro before answer after made
  cases answer with
  | error e => exact made
  | ok nodes =>
    obtain ⟨enough, distinct, c, rfl, rfl⟩ := made
    exact ⟨enough, distinct, turns_setSwarm account nodes c⟩

/-- What a pick makes of the turns. -/
theorem picks_of_pick {m : Node} {picked : Client ω}
    (picks : pick account (c.swarms account) c = (some m, picked)) :
    c.turns.Picks account m picked.turns := by
  unfold pick at picks
  cases chosen : c.rounds.select c.dice account (c.swarms account) with
  | mk someone left =>
    rw [chosen] at picks
    obtain ⟨rfl, rfl⟩ := Prod.mk.inj picks
    exact Rounds.picks_of_select (t := c.turns) chosen

end SwarmSource
end OnionSwarm

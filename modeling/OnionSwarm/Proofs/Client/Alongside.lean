/-
Operations in a world that holds something more.

Whatever an operation does in a world, it does in a larger one, and leaves alone what was added.  An
operation that is put together from others can be brought into the larger world as a whole or part
by part, which is the same.
-/
import OnionSwarm.Client.Swarms
import OnionSwarm.Proofs.Client.Complaints
import OnionSwarm.Proofs.Diary

namespace OnionSwarm

variable {ω τ α β δ : Type}

/-- The client without what was added to the world. -/
def Client.plain (c : Client (ω × τ)) : Client ω := c.within c.outside.1

/-- The client in a larger world. -/
def Client.widen (extra : τ) (c : Client ω) : Client (ω × τ) := c.within (c.outside, extra)

/-- What was added to the world. -/
def Client.extra (c : Client (ω × τ)) : τ := c.outside.2

@[simp] theorem Client.extra_widen (extra : τ) (c : Client ω) : (c.widen extra).extra = extra := rfl

@[simp] theorem Client.plain_widen (extra : τ) (c : Client ω) : (c.widen extra).plain = c := rfl

/-- What happens outside, in a larger world. -/
def outsideAlongside (act : StateM ω α) : StateM (ω × τ) α := fun w =>
  let (a, left) := act w.1
  (a, (left, w.2))

/-! ### Actions -/

namespace Act

/-- An operation in a larger world. -/
def alongside (act : Act ω α) : Act (ω × τ) α := fun c =>
  let (a, left) := act c.plain
  (a, left.widen c.extra)

theorem extra_alongside (act : Act ω α) (c : Client (ω × τ)) :
    (act.alongside c).2.extra = c.extra := rfl

theorem alongside_bind (x : Act ω α) (f : α → Act ω β) :
    (x >>= f).alongside (τ := τ) = x.alongside >>= fun a => (f a).alongside := rfl

end Act

/-! ### Jobs -/

namespace Work

/-- Work in a larger world goes on. -/
def aside (extra : τ) : Progress (Client ω) α → Progress (Client (ω × τ)) α
  | .done a c => .done a (c.widen extra)
  | .waits delay c rest => .waits delay (c.widen extra) fun now => aside now.extra (rest now.plain)

/-- A job in a larger world. -/
def alongside (work : Work ω α) : Work (ω × τ) α := fun c => aside c.extra (work c.plain)

theorem aside_andThen (extra : τ) (work : Progress (Client ω) α) (next : α → Work ω β) :
    aside extra (work.andThen next) = (aside extra work).andThen fun a => alongside (next a) := by
  induction work generalizing extra with
  | done a c => rfl
  | waits delay c rest ih => exact congrArg (Progress.waits delay _) (funext fun now => ih _ _)

theorem alongside_bind (work : Work ω α) (next : α → Work ω β) :
    alongside (τ := τ) (work >>= next) = alongside work >>= fun a => alongside (next a) :=
  funext fun c => aside_andThen c.extra (work c.plain) next

theorem aside_keep (extra : τ) (others : CallNotes) (work : Progress (Client ω) α) :
    aside extra (keep others work) = keep others (aside extra work) := by
  induction work generalizing extra others with
  | done a c => rfl
  | waits delay c rest ih => exact congrArg (Progress.waits delay _) (funext fun now => ih _ _ _)

theorem alongside_apart (work : Work ω α) :
    alongside (τ := τ) (apart work) = apart (alongside work) :=
  funext fun c => aside_keep c.extra c.notes _

theorem run_aside {pass : Nat → Act ω Unit} (extra : τ) (work : Progress (Client ω) α) :
    (aside extra work).run (fun delay => (pass delay).alongside)
      = ((work.run pass).1, (work.run pass).2.widen extra) := by
  induction work with
  | done a c => rfl
  | waits delay c rest ih => exact ih _

/-- A job that goes through a larger world comes to the same. -/
theorem run_alongside (pass : Nat → Act ω Unit) (work : Work ω α) :
    (alongside (τ := τ) work).run (fun delay => (pass delay).alongside)
      = Act.alongside (work.run pass) :=
  funext fun c => run_aside c.extra (work c.plain)

theorem extra_state_aside (extra : τ) (work : Progress (Client ω) α) :
    (aside extra work).state.extra = extra := by
  cases work <;> rfl

theorem stillEnters_aside (extra : List δ) (work : Progress (Client ω) α) :
    (aside extra work).StillEnters Client.extra fun _ entered => entered = [] := by
  induction work generalizing extra with
  | done a c => rfl
  | waits delay c rest ih =>
    intro now
    refine ⟨[], ?_, ih _ _⟩
    rw [extra_state_aside, List.append_nil]

/-- Nothing is entered in a diary that was added to the world. -/
theorem enters_alongside (work : Work ω α) :
    (alongside work).Enters (Client.extra (τ := List δ)) fun _ entered => entered = [] :=
  fun c => ⟨[], by rw [alongside, extra_state_aside, List.append_nil],
    stillEnters_aside c.extra (work c.plain)⟩

end Work

/-! ### Jobs that do more in the larger world -/

section Covers

variable {γ : Type} {work : Progress (Client (ω × τ)) α} {bare : Progress (Client ω) α}

/-- Without what was added to the world, the work does what other work does. -/
def Work.Covers : Progress (Client (ω × τ)) α → Progress (Client ω) α → Prop
  | .done a c, bare => bare = .done a c.plain
  | .waits delay c rest, bare =>
    ∃ rest', bare = .waits delay c.plain rest' ∧ ∀ now, Covers (rest now) (rest' now.plain)

namespace Work.Covers

theorem state (covers : Covers work bare) : bare.state = work.state.plain := by
  cases work with
  | done a c =>
    cases covers
    rfl
  | waits delay c rest =>
    obtain ⟨rest', rfl, -⟩ := covers
    rfl

theorem delay (covers : Covers work bare) : bare.delay = work.delay := by
  cases work with
  | done a c =>
    cases covers
    rfl
  | waits delay c rest =>
    obtain ⟨rest', rfl, -⟩ := covers
    rfl

theorem andThen (covers : Covers work bare) {next : α → Work (ω × τ) β} {next' : α → Work ω β}
    (each : ∀ a c, Covers (next a c) (next' a c.plain)) :
    Covers (work.andThen next) (bare.andThen next') := by
  induction work generalizing bare with
  | done a c =>
    cases covers
    exact each a c
  | waits delay c rest ih =>
    obtain ⟨rest', rfl, rests⟩ := covers
    exact ⟨_, rfl, fun now => ih now (rests now)⟩

/-- At its end the work may do more with what was added. -/
theorem andThen_aside (covers : Covers work bare) {next : α → Work (ω × τ) α}
    (only : ∀ a c, Covers (next a c) (.done a c.plain)) : Covers (work.andThen next) bare := by
  induction work generalizing bare with
  | done a c =>
    cases covers
    exact only a c
  | waits delay c rest ih =>
    obtain ⟨rest', rfl, rests⟩ := covers
    exact ⟨_, rfl, fun now => ih now (rests now)⟩

theorem keep (covers : Covers work bare) (others : CallNotes) :
    Covers (Work.keep others work) (Work.keep others bare) := by
  induction work generalizing bare others with
  | done a c =>
    cases covers
    rfl
  | waits delay c rest ih =>
    obtain ⟨rest', rfl, rests⟩ := covers
    exact ⟨_, rfl, fun now => ih _ (rests _) _⟩

theorem run (covers : Covers work bare) (pass : Nat → Act ω Unit) :
    bare.run pass = ((work.run fun delay => (pass delay).alongside).1,
      (work.run fun delay => (pass delay).alongside).2.plain) := by
  induction work generalizing bare with
  | done a c =>
    cases covers
    rfl
  | waits delay c rest ih =>
    obtain ⟨rest', rfl, rests⟩ := covers
    have later := ih _ (rests ((pass delay).alongside c).2)
    exact later

variable {right : Progress (Client (ω × τ)) β} {bareRight : Progress (Client ω) β}

theorem onlyRight (covers : Covers right bareRight) (a : α) (rightWaits : Nat)
    (now : Client (ω × τ)) :
    Covers (right.onlyRight a rightWaits now) (bareRight.onlyRight a rightWaits now.plain) := by
  cases right with
  | done b c =>
    cases covers
    rfl
  | waits delay c rest =>
    obtain ⟨rest', rfl, rests⟩ := covers
    exact ⟨_, rfl, fun now => (rests now).andThen fun _ _ => rfl⟩

theorem beforeLeft (covers : Covers right bareRight)
    {resume : Client (ω × τ) → Progress (Client (ω × τ)) β → Nat → Progress (Client (ω × τ)) γ}
    {resume' : Client ω → Progress (Client ω) β → Nat → Progress (Client ω) γ}
    (resumed : ∀ now right bareRight rightWaits, Covers right bareRight →
      Covers (resume now right rightWaits) (resume' now.plain bareRight rightWaits))
    (leftWaits rightWaits : Nat) (now : Client (ω × τ)) :
    Covers (right.beforeLeft resume leftWaits rightWaits now)
      (bareRight.beforeLeft resume' leftWaits rightWaits now.plain) := by
  induction right generalizing bareRight leftWaits rightWaits now with
  | done b c =>
    cases covers
    exact ⟨_, rfl, fun now => resumed now _ _ 0 rfl⟩
  | waits delay c rest ih =>
    obtain ⟨rest', rfl, rests⟩ := covers
    rw [Progress.beforeLeft, Progress.beforeLeft]
    split
    · exact ⟨_, rfl, fun now => resumed now _ _ _ ⟨rest', rfl, rests⟩⟩
    · refine ⟨_, rfl, fun now => ?_⟩
      dsimp only
      rw [(rests now).delay, (rests now).state]
      exact ih now (rests now) _ _ _

theorem beside (covers : Covers work bare) (covers' : Covers right bareRight)
    (leftWaits rightWaits : Nat) (now : Client (ω × τ)) :
    Covers (work.beside leftWaits right rightWaits now)
      (bare.beside leftWaits bareRight rightWaits now.plain) := by
  induction work generalizing bare right bareRight leftWaits rightWaits now with
  | done a c =>
    cases covers
    exact covers'.onlyRight a rightWaits now
  | waits delay c rest ih =>
    obtain ⟨rest', rfl, rests⟩ := covers
    refine covers'.beforeLeft ?_ leftWaits rightWaits now
    intro now right bareRight rightWaits covers'
    dsimp only
    rw [(rests now).delay, (rests now).state]
    exact ih now (rests now) covers' _ _ _

end Work.Covers

theorem Work.covers_aside (extra : τ) (work : Progress (Client ω) α) :
    Covers (aside extra work) work := by
  induction work generalizing extra with
  | done a c => rfl
  | waits delay c rest ih => exact ⟨rest, rfl, fun now => ih _ _⟩

end Covers

namespace Work

/-- The job does in the larger world what another one does without what was added. -/
def CoversJob (job : Work (ω × τ) α) (bare : Work ω α) : Prop := ∀ c, Covers (job c) (bare c.plain)

theorem coversJob_alongside (work : Work ω α) : CoversJob (alongside (τ := τ) work) work :=
  fun c => covers_aside c.extra (work c.plain)

theorem coversJob_pure (a : α) : CoversJob (τ := τ) (pure a) (pure a : Work ω α) := fun _ => rfl

/-- What an action does is seen at once. -/
theorem coversJob_ofAction {act : Act (ω × τ) α} {bare : Act ω α}
    (same : ∀ c, bare c.plain = ((act c).1, (act c).2.plain)) :
    CoversJob (.ofAction act) (.ofAction bare) := by
  intro c
  change Progress.done (bare c.plain).1 (bare c.plain).2 = _
  rw [same]

theorem CoversJob.bind {job : Work (ω × τ) α} {bare : Work ω α} (covers : CoversJob job bare)
    {next : α → Work (ω × τ) β} {next' : α → Work ω β} (each : ∀ a, CoversJob (next a) (next' a)) :
    CoversJob (job >>= next) (bare >>= next') :=
  fun c => (covers c).andThen fun a => each a

theorem CoversJob.apart {job : Work (ω × τ) α} {bare : Work ω α} (covers : CoversJob job bare) :
    CoversJob (apart job) (apart bare) :=
  fun c => (covers { c with notes := .empty }).keep c.notes

theorem CoversJob.beside {left : Work (ω × τ) α} {bare : Work ω α} (covers : CoversJob left bare)
    {right : Work (ω × τ) β} {bareRight : Work ω β} (covers' : CoversJob right bareRight) :
    CoversJob (left.beside right) (bare.beside bareRight) := by
  intro c
  have first := covers c
  have second := covers' (left c).state
  rw [← first.state] at second
  have begun : bare.beside bareRight c.plain = (bare c.plain).beside (bare c.plain).delay
      (bareRight (bare c.plain).state) (bareRight (bare c.plain).state).delay
      (bareRight (bare c.plain).state).state := rfl
  rw [begun, first.delay, second.delay, second.state]
  exact first.beside second _ _ _

theorem coversJob_together {ι : Type} {jobs : ι → Work (ω × τ) α} {bares : ι → Work ω α}
    (each : ∀ i, CoversJob (jobs i) (bares i)) (is : List ι) :
    CoversJob (Job.together (is.map jobs)) (Job.together (is.map bares)) := by
  induction is with
  | nil => exact coversJob_pure []
  | cons i is ih => exact ((each i).beside ih).bind fun _ => coversJob_pure _

/-- The job comes to the same in both worlds, but for what was added. -/
theorem CoversJob.run {job : Work (ω × τ) α} {bare : Work ω α} (covers : CoversJob job bare)
    (pass : Nat → Act ω Unit) (c : Client (ω × τ)) :
    bare.run pass c.plain = ((job.run (fun delay => (pass delay).alongside) c).1,
      (job.run (fun delay => (pass delay).alongside) c).2.plain) :=
  (covers c).run pass

end Work

/-! ### Where swarms come from -/

/-- Where the pool comes from, in a larger world. -/
def SeedSource.alongside (source : SeedSource ω) : SeedSource (ω × τ) :=
  ⟨source.seeds, source.minPool, fun seed body => outsideAlongside (source.post seed body)⟩

theorem SeedSource.refresh_alongside (source : SeedSource ω) :
    source.alongside.refresh = Act.alongside (τ := τ) source.refresh := by
  unfold refresh
  rw [Act.alongside_bind]
  refine bind_congr fun seed => ?_
  cases seed with
  | none => rfl
  | some seed =>
    dsimp only
    rw [Act.alongside_bind]
    refine bind_congr fun answer => ?_
    cases readAnswer seed answer <;> rfl

theorem SeedSource.ensure_alongside (source : SeedSource ω) :
    source.alongside.ensure = Act.alongside (τ := τ) source.ensure := by
  unfold ensure
  rw [Act.alongside_bind]
  refine bind_congr fun pool => ?_
  rw [refresh_alongside]
  by_cases enough : source.minPool ≤ pool.length
  · rw [if_pos enough, if_pos (c := source.alongside.minPool ≤ pool.length) enough]
    rfl
  · rw [if_neg enough, if_neg (c := source.alongside.minPool ≤ pool.length) enough]

theorem SeedSource.randomNode_alongside (source : SeedSource ω) :
    source.alongside.randomNode = Act.alongside (τ := τ) source.randomNode := by
  unfold randomNode
  rw [Act.alongside_bind, ensure_alongside]
  refine bind_congr fun ensured => ?_
  cases ensured with
  | error e => rfl
  | ok pool =>
    dsimp only
    rw [Act.alongside_bind]
    refine bind_congr fun picked => ?_
    cases picked <;> rfl

namespace SwarmSource

/-- Where swarms come from, in a larger world. -/
def alongside (source : SwarmSource ω) : SwarmSource (ω × τ) :=
  ⟨source.pool.alongside, fun node call => Work.alongside (source.ask node call), source.minSwarm⟩

theorem fetch_alongside (source : SwarmSource ω) (account : String) :
    source.alongside.fetch account = Work.alongside (τ := τ) (source.fetch account) := by
  unfold fetch
  rw [Work.alongside_bind]
  refine congrArg₂ (· >>= ·)
    (congrArg Job.ofAction source.pool.randomNode_alongside) (funext fun picked => ?_)
  cases picked with
  | error e => rfl
  | ok n =>
    dsimp only
    rw [Work.alongside_bind, Work.alongside_apart]
    refine congrArg₂ (· >>= ·) rfl (funext fun reply => ?_)
    cases reply with
    | error e => rfl
    | ok reply =>
      dsimp only
      cases Swarm.ofReply? reply <;> rfl

theorem get_alongside (source : SwarmSource ω) (account : String) :
    source.alongside.get account = Work.alongside (τ := τ) (source.get account) := by
  unfold get
  rw [Work.alongside_bind]
  refine congrArg₂ (· >>= ·) rfl (funext fun known => ?_)
  rw [fetch_alongside]
  by_cases enough : source.minSwarm ≤ known.length
  · rw [if_pos enough, if_pos (c := source.alongside.minSwarm ≤ known.length) enough]
    rfl
  · rw [if_neg enough, if_neg (c := source.alongside.minSwarm ≤ known.length) enough,
      Work.alongside_bind]
    refine congrArg₂ (· >>= ·) rfl (funext fun fetched => ?_)
    cases fetched with
    | error e => rfl
    | ok nodes =>
      dsimp only
      by_cases few : nodes.length < source.minSwarm
      · rw [if_pos few, if_pos (c := nodes.length < source.alongside.minSwarm) few]
        rfl
      · rw [if_neg few, if_neg (c := nodes.length < source.alongside.minSwarm) few]
        rfl

theorem target_alongside (source : SwarmSource ω) (account : String) :
    source.alongside.target account = Work.alongside (τ := τ) (source.target account) := by
  unfold target
  rw [Work.alongside_bind, get_alongside]
  refine congrArg₂ (· >>= ·) rfl (funext fun swarm => ?_)
  cases swarm with
  | error e => rfl
  | ok swarm =>
    dsimp only
    rw [Work.alongside_bind]
    refine congrArg₂ (· >>= ·) rfl (funext fun picked => ?_)
    cases picked <;> rfl

end SwarmSource
end OnionSwarm

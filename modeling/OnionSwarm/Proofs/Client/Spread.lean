/-
Over every run, the targets of an account are spread evenly over its swarm.

A run is any sequence of operations on swarms, of any accounts, that wait and go on in any order;
whatever else happens meanwhile leaves swarms and picks alone.  An operation changes them at its end
only, and then in one of few ways (`Effect`): the swarm of its account is replaced, which forgets
the picks, or a member is picked from the swarm as it then is, or the one and then the other.  So the
picks since the last replacement are always picks from the swarm that is there.
-/
import OnionSwarm.Proofs.Client.Redirects
import OnionSwarm.Proofs.Client.Stretches

namespace OnionSwarm

variable {ω : Type}

/-! ### Targets -/

namespace SwarmSource

variable {c left : Client ω} {account : String} {m : Node}

theorem turns_of_unpicked (picks : pick account (c.swarms account) c = (none, left)) :
    c.swarms account = [] ∧ left = c := by
  have empty : c.swarms account = [] := by
    by_contra nonempty
    obtain ⟨m, picked, -⟩ := c.rounds.exists_select c.dice account nonempty
    have nobody : (c.rounds.select c.dice account (c.swarms account)).1 = none :=
      congrArg Prod.fst picks
    rw [picked] at nobody
    cases nobody
  rw [empty] at picks
  exact ⟨empty, (congrArg Prod.snd picks).symm⟩

/-- Hands out a node of a swarm. -/
def handOut (account : String) (swarm : List Node) : Work ω (Except DirectoryFailure Node) := do
  match ← .ofAction (pick account swarm) with
  | some n => return .ok n
  | none => return .error (.emptySwarm account)

/-- From the swarm as it is, a member is picked, if it has any. -/
theorem exists_handOut {swarm : List Node} (same : c.swarms account = swarm) :
    ∃ answer left, handOut account swarm c = .done answer left ∧
      match answer with
      | .ok m => c.turns.Picks account m left.turns
      | .error _ => swarm = [] ∧ left.turns = c.turns := by
  subst same
  have done : handOut account (c.swarms account) c
      = (match (pick account (c.swarms account) c).1 with
        | some n => (pure (.ok n) : Work ω (Except DirectoryFailure Node))
        | none => pure (.error (.emptySwarm account))) (pick account (c.swarms account) c).2 := rfl
  cases picks : pick account (c.swarms account) c with
  | mk someone left =>
    rw [picks] at done
    cases someone with
    | some m => exact ⟨_, _, done, picks_of_pick picks⟩
    | none =>
      obtain ⟨empty, rfl⟩ := turns_of_unpicked picks
      exact ⟨_, _, done, empty, rfl⟩

theorem target_eq (source : SwarmSource ω) (account : String) (c : Client ω) :
    source.target account c = (source.get account c).andThen fun swarm =>
      match swarm with
      | .error e => pure (.error e)
      | .ok swarm => handOut account swarm := rfl

/-- A target of a swarm that is large enough is picked from it. -/
theorem makes_target_of_large {source : SwarmSource ω}
    (large : source.minSwarm ≤ (c.swarms account).length) :
    (source.target account c).Makes Client.turns (fun before answer after =>
      match answer with
      | .ok m => before.Picks account m after
      | .error _ => after = before) c.turns := by
  obtain ⟨answer, left, done, made⟩ := exists_handOut (SwarmApi.swarms_noteSwarm account c ▸ rfl :
    ({ c with store := c.store.noteSwarm account } : Client ω).swarms account = c.swarms account)
  rw [turns_noteSwarm] at made
  have handed : source.target account c = .done answer left := by
    rw [target_eq, get_eq, if_pos large]
    exact done
  rw [handed]
  cases answer with
  | error e => exact made.2
  | ok m => exact made

/-- A target of a swarm that is too small is picked from the one that takes its place. -/
theorem makes_target_of_small (n : Network ω)
    (small : ¬ n.swarms.minSwarm ≤ (c.swarms account).length) :
    (n.swarms.target account c).Makes Client.turns (fun before answer after =>
      match answer with
      | .ok m => ∃ nodes, Distinct nodes ∧ (before.renew account nodes).Picks account m after
      | .error _ => after = before) c.turns := by
  rw [target_eq, get_eq, if_neg small, ← turns_noteSwarm account c]
  refine (makes_refetch n account _).andThen fun before answer c made => ?_
  cases answer with
  | error e => exact made
  | ok nodes =>
    obtain ⟨enough, distinct, same⟩ := made
    have renewed : c.swarms account = nodes := by
      have swarms : c.swarms = Function.update before.swarms account nodes :=
        congrArg Turns.swarms same
      rw [swarms, Function.update_self]
    obtain ⟨answer, left, done, made⟩ := exists_handOut renewed
    dsimp only
    rw [done]
    cases answer with
    | error e =>
      rw [made.1] at enough
      exact (small (enough.trans (Nat.zero_le _))).elim
    | ok m =>
      rw [same] at made
      exact ⟨nodes, distinct, made⟩

theorem turns_drop (m : Node) (account : String) (c : Client ω) :
    (drop m account c).2.turns = if m.isIn (c.swarms account)
      then c.turns.renew account (Swarm.without (c.swarms account) m) else c.turns := by
  have dropped : drop m account c = (if m.isIn (c.swarms account)
      then Act.setSwarm account (Swarm.without (c.swarms account) m) else pure ())
        { c with store := c.store.noteSwarm account } := rfl
  rw [dropped]
  split
  · rw [turns_setSwarm, turns_noteSwarm]
  · exact turns_noteSwarm account c

end SwarmSource

namespace Picking

/-! ### Operations -/

/-- What is to be told of an operation. -/
inductive News where
  /-- The swarm of the account was replaced, or lost a node. -/
  | renewed (account : String)
  /-- The node was handed out as a target. -/
  | given (account : String) (m : Node)
  deriving DecidableEq

/-- The targets of an account since its swarm was last renewed, after one more piece of news. -/
def picksAfter (account : String) (picks : List Node) : News → List Node
  | .renewed other => if other = account then [] else picks
  | .given other m => if other = account then picks ++ [m] else picks

/-- The targets of an account since its swarm was last renewed. -/
def picksSince (account : String) (news : List News) : List Node :=
  news.foldl (picksAfter account) []

inductive Operation where
  /-- A target is wanted. -/
  | target (account : String)
  /-- A swarm is wanted, and may be too small. -/
  | swarm (account : String)
  /-- A swarm is replaced by the list in the body of a refusal. -/
  | replaceFrom (account : String) (body : Option Bytes)
  | drop (m : Node) (account : String)

namespace Operation

/-- Whose swarm it is. -/
def account : Operation → String
  | target account | swarm account | replaceFrom account _ | drop _ account => account

/-- Does an operation, and tells what came of it.  A swarm is asked for only if it is too small, and
then replaced by what is handed out. -/
def work (n : Network ω) : Operation → Work ω (List News)
  | target account => do
    let known := (← get).swarms account
    match ← n.swarms.target account with
    | .error _ => return []
    | .ok m =>
      return if n.swarms.minSwarm ≤ known.length then [.given account m]
        else [.renewed account, .given account m]
  | swarm account => do
    let known := (← get).swarms account
    match ← n.swarms.get account with
    | .error _ => return []
    | .ok _ => return if n.swarms.minSwarm ≤ known.length then [] else [.renewed account]
  | replaceFrom account body => do
    let usable ← .ofAction (SwarmSource.replaceFrom account body)
    return if usable then [.renewed account] else []
  | drop m account => do
    let known := (← get).swarms account
    .ofAction (SwarmSource.drop m account)
    return if m.isIn known then [.renewed account] else []

end Operation

/-- What an operation on the swarm of an account may do, and what it tells then. -/
inductive Effect (account : String) (t : Turns) : List News → Turns → Prop
  | none : Effect account t [] t
  | renewed {nodes : List Node} (distinct : Distinct (t.swarms account) → Distinct nodes) :
      Effect account t [.renewed account] (t.renew account nodes)
  | given {m : Node} {t' : Turns} (picks : t.Picks account m t') :
      Effect account t [.given account m] t'
  | both {nodes : List Node} {m : Node} {t' : Turns} (distinct : Distinct nodes)
      (picks : (t.renew account nodes).Picks account m t') :
      Effect account t [.renewed account, .given account m] t'

theorem makes_work (n : Network ω) (op : Operation) :
    (op.work n).Makes Client.turns (Effect op.account) := by
  intro c
  have looked : (get : Act ω (Client ω)) c = (c, c) := rfl
  cases op with
  | target account =>
    refine Job.makes_action_bind looked ?_
    -- a swarm that is too small is renewed before a member is picked
    by_cases large : n.swarms.minSwarm ≤ (c.swarms account).length
    · refine (SwarmSource.makes_target_of_large large).andThen fun before answer c made => ?_
      cases answer with
      | error e => exact made ▸ .none
      | ok m =>
        dsimp only
        rw [if_pos large]
        exact .given made
    · refine (SwarmSource.makes_target_of_small n large).andThen fun before answer c made => ?_
      cases answer with
      | error e => exact made ▸ .none
      | ok m =>
        obtain ⟨nodes, distinct, picks⟩ := made
        dsimp only
        rw [if_neg large]
        exact .both distinct picks
  | swarm account =>
    refine Job.makes_action_bind looked ?_
    change Progress.Makes _ _ _ ((n.swarms.get account c).andThen _)
    rw [SwarmSource.get_eq, ← SwarmSource.turns_noteSwarm account c]
    by_cases large : n.swarms.minSwarm ≤ (c.swarms account).length
    · simp only [if_pos large]
      exact Effect.none
    · simp only [if_neg large]
      refine (SwarmSource.makes_refetch n account _).andThen fun before answer c made => ?_
      cases answer with
      | error e => exact made ▸ .none
      | ok nodes =>
        obtain ⟨-, distinct, same⟩ := made
        change Effect account before [.renewed account] c.turns
        rw [same]
        exact .renewed fun _ => distinct
  | replaceFrom account body =>
    cases usable : Swarm.ofBody body with
    | nil =>
      have did : SwarmSource.replaceFrom account body c = (false, c) := by
        unfold SwarmSource.replaceFrom
        rw [usable]
        rfl
      exact Job.makes_action_bind did .none
    | cons m rest =>
      have did : SwarmSource.replaceFrom account body c
          = (true, (Act.setSwarm account (m :: rest) c).2) := by
        unfold SwarmSource.replaceFrom
        rw [usable]
        rfl
      have distinct := (Swarm.wellListed_ofBody body).distinct
      rw [usable] at distinct
      refine Job.makes_action_bind did ?_
      change Effect account _ [.renewed account] (Act.setSwarm account (m :: rest) c).2.turns
      rw [SwarmSource.turns_setSwarm]
      exact .renewed fun _ => distinct
  | drop m account =>
    refine Job.makes_action_bind looked ?_
    refine Job.makes_action_bind rfl ?_
    change Effect account _ (if m.isIn (c.swarms account) then _ else _)
      (SwarmSource.drop m account c).2.turns
    -- the round is renewed only if the node was a member
    rw [SwarmSource.turns_drop]
    split
    · exact .renewed fun distinct => distinct.sublist List.filter_sublist
    · exact .none

/-! ### Runs -/

/-- A client at some moment, the work that waits, with the account of each, and all news. -/
structure Scene (ω : Type) where
  client : Client ω
  waiting : List (String × (Client ω → Progress (Client ω) (List News)))
  news : List News

/-- The scene after some work went on, to its next pause or to its end. -/
def Scene.after (scene : Scene ω) (account : String) : Progress (Client ω) (List News) → Scene ω
  | .done more c => ⟨c, scene.waiting, scene.news ++ more⟩
  | .waits _ c rest => ⟨c, (account, rest) :: scene.waiting, scene.news⟩

/-- What can happen, and to the swarm of which account. -/
inductive Step (n : Network ω) : Scene ω → Option String → Scene ω → Prop
  | begins (scene : Scene ω) (op : Operation) :
      Step n scene (some op.account) (scene.after op.account (op.work n scene.client))
  /-- Any work that waits goes on, as long as it may have waited. -/
  | resumes (scene : Scene ω) {account : String}
      {before after : List (String × (Client ω → Progress (Client ω) (List News)))}
      {rest : Client ω → Progress (Client ω) (List News)}
      (waited : scene.waiting = before ++ (account, rest) :: after) :
      Step n scene (some account)
        ({ scene with waiting := before ++ after }.after account (rest scene.client))
  /-- Anything else happens. -/
  | aside (scene : Scene ω) {c : Client ω} (same : c.turns = scene.client.turns) :
      Step n scene none { scene with client := c }

/-- The scenes that are reached from a client. -/
inductive Run (n : Network ω) (start : Client ω) : Scene ω → Prop
  | starts : Run n start ⟨start, [], []⟩
  | step {scene later : Scene ω} {account : Option String} (before : Run n start scene)
      (step : Step n scene account later) : Run n start later

/-! ### What an operation changes -/

variable {t t' : Turns} {account other : String} {m : Node} {nodes picks : List Node}
  {news : List News}

/-- Every node that counts as picked is in the swarm. -/
def UsedWithin (t : Turns) : Prop :=
  ∀ account, ∀ site ∈ t.rounds.used account, site ∈ (t.swarms account).map Node.site

/-- No node is twice in the swarm of the account, and the picks are spread evenly over it. -/
def EvenNow (t : Turns) (account : String) (picks : List Node) : Prop :=
  Distinct (t.swarms account) ∧
    ∃ full current, Even (t.swarms account) (t.rounds.used account) picks full current

theorem swarms_of_picks (picks : t.Picks account m t') : t'.swarms = t.swarms := by
  cases picks <;> rfl

theorem used_of_picks (picked : t.Picks account m t') (ne : other ≠ account) :
    t'.rounds.used other = t.rounds.used other := by
  cases picked <;> exact (Rounds.used_insert ..).trans (if_neg ne)

theorem used_renew_self (t : Turns) (account : String) (nodes : List Node) :
    (t.renew account nodes).rounds.used account = [] :=
  (Rounds.used_reset ..).trans (if_pos rfl)

theorem used_renew_of_ne (t : Turns) (nodes : List Node) (ne : other ≠ account) :
    (t.renew account nodes).rounds.used other = t.rounds.used other :=
  (Rounds.used_reset ..).trans (if_neg ne)

theorem swarms_renew_self (t : Turns) (account : String) (nodes : List Node) :
    (t.renew account nodes).swarms account = nodes := Function.update_self ..

theorem swarms_renew_of_ne (t : Turns) (nodes : List Node) (ne : other ≠ account) :
    (t.renew account nodes).swarms other = t.swarms other := Function.update_of_ne ne ..

theorem usedWithin_renew (within : UsedWithin t) (account : String) (nodes : List Node) :
    UsedWithin (t.renew account nodes) := by
  intro other
  by_cases own : other = account
  · rw [own, used_renew_self]
    exact nofun
  · rw [used_renew_of_ne t nodes own, swarms_renew_of_ne t nodes own]
    exact within other

theorem usedWithin_of_picks (picked : t.Picks account m t') (within : UsedWithin t) :
    UsedWithin t' := by
  intro other
  by_cases own : other = account
  · subst own
    rw [swarms_of_picks picked]
    cases picked with
    | goesOn member fresh =>
      rw [Rounds.used_insert, if_pos rfl, List.forall_mem_cons]
      exact ⟨List.mem_map_of_mem member, within other⟩
    | anew member all =>
      rw [Rounds.used_insert, if_pos rfl, List.forall_mem_cons]
      exact ⟨List.mem_map_of_mem member, nofun⟩
  · rw [used_of_picks picked own, swarms_of_picks picked]
    exact within other

theorem evenNow_renew (distinct : Distinct (t.swarms account) → Distinct nodes)
    (even : EvenNow t other picks) :
    EvenNow (t.renew account nodes) other (picksAfter other picks (.renewed account)) := by
  by_cases own : other = account
  · subst own
    rw [EvenNow, swarms_renew_self, used_renew_self, picksAfter, if_pos rfl]
    exact ⟨distinct even.1, [], [], .nil nodes⟩
  · rw [EvenNow, swarms_renew_of_ne t nodes own, used_renew_of_ne t nodes own, picksAfter,
      if_neg (Ne.symm own)]
    exact even

theorem evenNow_of_picks (picked : t.Picks account m t') (even : EvenNow t other picks) :
    EvenNow t' other (picksAfter other picks (.given account m)) := by
  rw [EvenNow, swarms_of_picks picked, picksAfter]
  by_cases own : other = account
  · subst own
    obtain ⟨distinct, full, current, even⟩ := even
    rw [if_pos rfl]
    cases picked with
    | goesOn member fresh =>
      rw [Rounds.used_insert, if_pos rfl]
      exact ⟨distinct, _, _, even.goesOn member fresh⟩
    | anew member all =>
      rw [Rounds.used_insert, if_pos rfl]
      exact ⟨distinct, _, _, even.anew distinct member all⟩
  · rw [used_of_picks picked own, if_neg (Ne.symm own)]
    exact even

namespace Effect

theorem usedWithin (effect : Effect account t news t') (within : UsedWithin t) : UsedWithin t' := by
  cases effect with
  | none => exact within
  | renewed distinct => exact usedWithin_renew within account _
  | given picked => exact usedWithin_of_picks picked within
  | both distinct picked => exact usedWithin_of_picks picked (usedWithin_renew within account _)

theorem evenNow (effect : Effect account t news t') (even : EvenNow t other picks) :
    EvenNow t' other (news.foldl (picksAfter other) picks) := by
  cases effect with
  | none => exact even
  | renewed distinct => exact evenNow_renew distinct even
  | given picked => exact evenNow_of_picks picked even
  | both distinct picked => exact evenNow_of_picks picked (evenNow_renew (fun _ => distinct) even)

/-- A node that is handed out is in the swarm. -/
theorem member (effect : Effect account t news t') (told : .given other m ∈ news) :
    m ∈ t'.swarms other := by
  have inside {t t' : Turns} {m : Node} (picked : t.Picks account m t') : m ∈ t'.swarms account := by
    rw [swarms_of_picks picked]
    cases picked with
    | goesOn member => exact member
    | anew member => exact member
  cases effect with
  | none => cases told
  | renewed distinct => simp at told
  | given picked =>
    simp only [List.mem_singleton, News.given.injEq] at told
    obtain ⟨rfl, rfl⟩ := told
    exact inside picked
  | both distinct picked =>
    simp only [List.mem_cons, reduceCtorEq, News.given.injEq, List.not_mem_nil, or_false,
      false_or] at told
    obtain ⟨rfl, rfl⟩ := told
    exact inside picked

/-- A swarm that is not told to be renewed is as it was. -/
theorem swarms_of_untold (effect : Effect account t news t') (untold : .renewed other ∉ news) :
    t'.swarms other = t.swarms other := by
  cases effect with
  | none => rfl
  | renewed distinct =>
    refine swarms_renew_of_ne t _ fun own => untold ?_
    rw [own]
    exact List.mem_singleton_self _
  | given picked => exact congrFun (swarms_of_picks picked) other
  | both distinct picked =>
    refine (congrFun (swarms_of_picks picked) other).trans (swarms_renew_of_ne t _ fun own => ?_)
    refine untold ?_
    rw [own]
    exact List.mem_cons_self

/-- The swarms of other accounts, and the picks from them, are as they were. -/
theorem others (effect : Effect account t news t') (ne : other ≠ account) :
    t'.swarms other = t.swarms other ∧ t'.rounds.used other = t.rounds.used other := by
  have renewed (nodes : List Node) := swarms_renew_of_ne t nodes ne
  have forgotten (nodes : List Node) := used_renew_of_ne t nodes ne
  cases effect with
  | none => exact ⟨rfl, rfl⟩
  | renewed distinct => exact ⟨renewed _, forgotten _⟩
  | given picked => exact ⟨congrFun (swarms_of_picks picked) other, used_of_picks picked ne⟩
  | both distinct picked =>
    exact ⟨(congrFun (swarms_of_picks picked) other).trans (renewed _),
      (used_of_picks picked ne).trans (forgotten _)⟩

end Effect

/-- What can be picked for an account depends on its own swarm and picks. -/
theorem mayPick_congr (swarms : t'.swarms account = t.swarms account)
    (used : t'.rounds.used account = t.rounds.used account) (m : Node) :
    t'.MayPick account m ↔ t.MayPick account m := by
  unfold Turns.MayPick
  rw [swarms]
  exact exists_congr fun dice => by rw [Rounds.select_fst_congr used]

/-! ### Every run -/

variable {n : Network ω} {start : Client ω} {scene later : Scene ω} {label : Option String}

/-- Whatever work waits will do no more than its operation may. -/
def Scene.Sound (scene : Scene ω) : Prop :=
  ∀ work ∈ scene.waiting, Job.Makes Client.turns (Effect work.1) work.2

/-- What a step tells and changes. -/
structure Steps (account : String) (scene later : Scene ω) (more : List News) : Prop where
  sound : later.Sound
  news : later.news = scene.news ++ more
  effect : Effect account scene.client.turns more later.client.turns

theorem Scene.Sound.after (sound : scene.Sound) {work : Progress (Client ω) (List News)}
    (makes : work.Makes Client.turns (Effect account) scene.client.turns) :
    ∃ more, Steps account scene (scene.after account work) more := by
  cases work with
  | done more c => exact ⟨more, sound, rfl, makes⟩
  | waits delay c rest =>
    refine ⟨[], fun work mem => ?_, (List.append_nil _).symm, ?_⟩
    · rcases List.mem_cons.1 mem with rfl | old
      · exact makes.2
      · exact sound work old
    · have same : c.turns = scene.client.turns := makes.1
      exact same ▸ .none

theorem Step.steps (step : Step n scene label later) (sound : scene.Sound) :
    ∃ account more, Steps account scene later more ∧ ∀ own, label = some own → account = own := by
  cases step with
  | begins op =>
    obtain ⟨more, steps⟩ := sound.after (makes_work n op scene.client)
    exact ⟨op.account, more, steps, fun own same => Option.some.inj same⟩
  | @resumes account before after rest waited =>
    have among : ∀ work ∈ before ++ (account, rest) :: after,
        Job.Makes Client.turns (Effect work.1) work.2 := waited ▸ sound
    have others : Scene.Sound { scene with waiting := before ++ after } :=
      fun other mem => among other (by simp at mem ⊢; tauto)
    have makes := among (account, rest) (by simp) scene.client
    obtain ⟨more, steps⟩ := others.after makes
    exact ⟨account, more, ⟨steps.sound, steps.news, steps.effect⟩, fun own same => Option.some.inj same⟩
  | aside same =>
    exact ⟨"", [], ⟨sound, (List.append_nil _).symm, same ▸ .none⟩, nofun⟩

/-- What every run keeps. -/
structure Kept (start : Client ω) (scene : Scene ω) : Prop where
  sound : scene.Sound
  within : UsedWithin scene.client.turns
  even : ∀ account, Distinct (start.swarms account) →
    EvenNow scene.client.turns account (picksSince account scene.news)

theorem Run.kept (run : Run n start scene) (fresh : start.rounds = .empty) : Kept start scene := by
  have unused (account : String) : start.turns.rounds.used account = [] := by
    rw [Client.turns, fresh]
    rfl
  induction run with
  | starts =>
    refine ⟨by simp [Scene.Sound], fun account => ?_, fun account distinct => ⟨distinct, [], [], ?_⟩⟩
    · rw [unused]
      exact List.nil_subset _
    · rw [unused]
      exact .nil _
  | step _ step ih =>
    obtain ⟨_, more, steps, -⟩ := step.steps ih.sound
    refine ⟨steps.sound, steps.effect.usedWithin ih.within, fun account distinct => ?_⟩
    rw [steps.news, picksSince, List.foldl_append]
    exact steps.effect.evenNow (ih.even account distinct)

/-- A node that was dropped is no longer in the swarm. -/
theorem isIn_after_drop (n : Network ω) (scene : Scene ω) (m : Node) (account : String) :
    m.isIn ((scene.after account
      ((Operation.drop m account).work n scene.client)).client.swarms account) = false := by
  have left : (scene.after account ((Operation.drop m account).work n scene.client)).client
      = (SwarmSource.drop m account scene.client).2 := rfl
  have swarms := congrArg (Turns.swarms · account) (SwarmSource.turns_drop m account scene.client)
  rw [left]
  refine (congrArg m.isIn swarms).trans ?_
  split
  · rw [swarms_renew_self]
    simp [Node.isIn, Swarm.without]
  · rename_i absent
    exact Bool.eq_false_iff.2 absent

/-- **The targets of an account are spread evenly over its swarm.**

At every moment of a run that begins without picks, whatever nodes reply and however the dice fall:

* what counts as picked is in the swarm;
* if the swarm held no node twice when the run began, the targets that were handed out since the swarm
  was last renewed fall into blocks as long as the swarm, each of which holds every member once;
* whatever happens next, a node is handed out only if it is in the swarm then, a swarm changes only
  if that is told, and an operation on another swarm changes neither the swarm nor what can be picked
  from it;
* a node that is dropped is in the swarm no more. -/
theorem targets_spread_evenly (fresh : start.rounds = .empty) (run : Run n start scene) :
    (∀ account, ∀ site ∈ scene.client.rounds.used account,
      site ∈ (scene.client.swarms account).map Node.site) ∧
    (∀ account, Distinct (start.swarms account) → ∀ before block after,
      picksSince account scene.news = before ++ block ++ after →
      (scene.client.swarms account).length ∣ before.length →
      block.length = (scene.client.swarms account).length →
      block.Perm (scene.client.swarms account)) ∧
    (∀ label later, Step n scene label later →
      (∃ more, later.news = scene.news ++ more ∧
        (∀ account m, .given account m ∈ more → m ∈ later.client.swarms account) ∧
        ∀ account, .renewed account ∉ more →
          later.client.swarms account = scene.client.swarms account) ∧
      ∀ own, label = some own → ∀ other, other ≠ own →
        later.client.swarms other = scene.client.swarms other ∧
        ∀ m, later.client.turns.MayPick other m ↔ scene.client.turns.MayPick other m) ∧
    ∀ (m : Node) (account : String), m.isIn ((scene.after account
      ((Operation.drop m account).work n scene.client)).client.swarms account) = false := by
  have kept := run.kept fresh
  refine ⟨kept.within, fun account distinct before block after split aligned length => ?_,
    fun label later step => ?_, isIn_after_drop n scene⟩
  · obtain ⟨-, full, current, even⟩ := kept.even account distinct
    exact even.perm_block split aligned length
  · obtain ⟨account, more, steps, labelled⟩ := step.steps kept.sound
    refine ⟨⟨more, steps.news, fun _ _ told => steps.effect.member told,
      fun _ untold => steps.effect.swarms_of_untold untold⟩, ?_⟩
    rintro own same other ne
    obtain ⟨swarms, used⟩ := steps.effect.others (labelled own same ▸ ne)
    exact ⟨swarms, mayPick_congr swarms used⟩

/-- A network in which swarms of two are large enough. -/
def trialNetwork : Network Unit :=
  { SwarmApi.trialNetwork SwarmApi.refusal with
    config := { NetworkConfig.standard with minSwarmSize := 2 } }

/-- The scene after some targets were handed out. -/
def trialScene : Nat → Scene Unit
  | 0 => ⟨SwarmApi.trialOwner, [], []⟩
  | count + 1 => (trialScene count).after "05aa"
      ((Operation.target "05aa").work trialNetwork (trialScene count).client)

theorem targets_spread_evenly_trialScene :
    SwarmApi.trialOwner.rounds = .empty ∧
      Run trialNetwork SwarmApi.trialOwner (trialScene 2) ∧
      (picksSince "05aa" (trialScene 2).news).Perm [Onion.trialNode 1, Onion.trialNode 2] := by
  have run : Run trialNetwork SwarmApi.trialOwner (trialScene 2) :=
    .step (.step .starts (.begins _ (.target "05aa"))) (.begins _ (.target "05aa"))
  have swarm : (trialScene 2).client.swarms "05aa" = [Onion.trialNode 1, Onion.trialNode 2] := by
    decide +kernel
  obtain ⟨-, blocks, -⟩ := targets_spread_evenly rfl run
  have block := blocks "05aa" (by decide +kernel) [] (picksSince "05aa" (trialScene 2).news) []
    (List.append_nil _).symm (Nat.dvd_zero _) (by decide +kernel)
  exact ⟨rfl, run, swarm ▸ block⟩

end Picking
end OnionSwarm

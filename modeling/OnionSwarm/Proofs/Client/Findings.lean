/-
A swarm is found as a whole, or nothing is changed.

What is kept of an account is its swarm, the bytes of it in storage, and its round.  While a swarm is
looked for, the pool may be filled up and paths may be built and given up, but nothing of this has to
do with any account.  What is kept changes only at the very end, when a list that is large enough is
there, and then in one stretch, so nobody ever finds it half changed.

Which nodes are asked is not seen in what is kept.  So the questions are noted beside the world, each
with its answer.
-/
import OnionSwarm.Proofs.Batch.Served
import OnionSwarm.Proofs.Client.Bootstraps
import OnionSwarm.Proofs.Client.Stretches

namespace OnionSwarm

variable {ω : Type}

/-! ### What is kept of an account -/

/-- What is kept of an account. -/
structure Keeping where
  swarm : List Node
  /-- What is in storage, if anything. -/
  stored : Option Bytes
  round : List Site

/-- What the client keeps of each account. -/
def Client.keeping (c : Client ω) (account : String) : Keeping :=
  ⟨c.swarms account, c.store.disk.cells.get? (Store.swarmCell account), c.rounds.used account⟩

theorem Errand.cell {c d : Client ω} (errand : Errand True c d) (account : String) :
    d.store.disk.cells.get? (Store.swarmCell account)
      = c.store.disk.cells.get? (Store.swarmCell account) := by
  have written (nodes : List Node) :
      (c.store.setPool nodes).disk.cells.get? (Store.swarmCell account)
        = c.store.disk.cells.get? (Store.swarmCell account) := by
    show (Store.persist _ _ _).cells.get? _ = _
    rw [Store.get?_persist, if_neg fun both => Store.swarmCell_ne_poolCell account both.1]
  cases errand with
  | looks => rfl
  | refills => exact written _
  | drops => exact written _
  | aside => rfl
  | tells => rfl

theorem Client.aloof_keeping : Client.Aloof (Client.keeping (ω := ω)) where
  errand := by
    intro c d errand
    have rounds : d.rounds = c.rounds := congrArg (·.2.2) errand.bearings
    funext account
    rw [keeping, keeping, errand.swarms, errand.cell, rounds]
  notes _ _ := rfl

namespace SwarmSource

theorem keeping_noteSwarm (account : String) (c : Client ω) :
    { c with store := c.store.noteSwarm account }.keeping = c.keeping := by
  funext other
  rw [Client.keeping, SwarmApi.swarms_noteSwarm]
  rfl

/-- The swarm of an account is replaced, and nothing else is changed. -/
theorem keeping_setSwarm (account : String) (nodes : List Node) (c : Client ω) :
    ((Act.setSwarm account nodes c).2.keeping account).swarm = nodes ∧
      (Act.setSwarm account nodes c).2.keeping
        = Function.update c.keeping account ((Act.setSwarm account nodes c).2.keeping account) := by
  refine ⟨c.store.viewSwarm_setSwarm_self account nodes, ?_⟩
  funext other
  by_cases own : other = account
  · subst own
    rw [Function.update_self]
  · have cells : Store.swarmCell other ≠ Store.swarmCell account :=
      fun same => own (Store.swarmCell_injective same)
    have swarm : (Act.setSwarm account nodes c).2.swarms other = c.swarms other := by
      rw [SwarmApi.swarms_setSwarm, Function.update_of_ne own]
    have stored : (Act.setSwarm account nodes c).2.store.disk.cells.get? (Store.swarmCell other)
        = c.store.disk.cells.get? (Store.swarmCell other) := by
      show (Store.persist _ _ _).cells.get? _ = _
      rw [Store.get?_persist, if_neg fun both => cells both.1]
    have round : (Act.setSwarm account nodes c).2.rounds.used other = c.rounds.used other :=
      (c.rounds.used_reset account other).trans (if_neg own)
    rw [Function.update_of_ne own, Client.keeping, swarm, stored, round]
    rfl

/-- What is kept changes at the end only, and only for a list that is large enough. -/
theorem makes_get (n : Network ω) (account : String) :
    (n.swarms.get account).Makes Client.keeping fun before answer after =>
      match answer with
      | .ok nodes => n.swarms.minSwarm ≤ nodes.length ∧ (after account).swarm = nodes ∧
          after = Function.update before account (after account)
      | .error _ => after = before := by
  intro c
  rw [get_eq, ← keeping_noteSwarm account c]
  by_cases viable : n.swarms.minSwarm ≤ (c.swarms account).length
  · rw [if_pos viable]
    refine ⟨viable, congrFun (SwarmApi.swarms_noteSwarm account c) account, ?_⟩
    rw [Function.update_eq_self]
  · rw [if_neg viable]
    refine (makes_refetch_of_aloof Client.aloof_keeping n account _).mono ?_
    intro before answer after made
    cases answer with
    | error e => exact made
    | ok nodes =>
      obtain ⟨enough, -, c, rfl, rfl⟩ := made
      exact ⟨enough, keeping_setSwarm account nodes c⟩

/-! ### Whom it asks -/

/-- Questions to nodes, each with its answer. -/
abbrev Questions := Batch.Calls (Node × NodeCall) Json

/-- Puts a question. -/
def put (source : SwarmSource ω) (q : Node × NodeCall) : Work ω (Except ApiFailure Json) :=
  source.ask q.1 q.2

/-- The source in a world in which all questions are noted. -/
def watched (source : SwarmSource ω) : SwarmSource (ω × Questions) :=
  ⟨source.pool.alongside, fun node call => Batch.watched source.put (node, call), source.minSwarm⟩

/-- What comes of asking for the swarm of an account: the questions and the answer. -/
inductive Fetched (source : SwarmSource ω) (account : String) (c : Client ω) :
    Questions → Except DirectoryFailure (List Node) → Prop
  /-- There is no node to ask. -/
  | nobody {e : DirectoryFailure} (failed : (source.pool.randomNode c).1 = .error e) :
      Fetched source account c [] (.error e)
  /-- The question fails. -/
  | failed {node : Node} (picked : (source.pool.randomNode c).1 = .ok node) (e : ApiFailure) :
      Fetched source account c [((node, .findSwarm account), .error e)]
        (.error (.swarmFetchFailed e.message))
  /-- The answer has no list. -/
  | unlisted {node : Node} (picked : (source.pool.randomNode c).1 = .ok node) {reply : Json}
      (none : (reply.get? "snodes").bind Json.asArray? = none) :
      Fetched source account c [((node, .findSwarm account), .ok reply)]
        (.error (.swarmFetchFailed "response has no snodes list"))
  /-- The answer has a list. -/
  | listed {node : Node} (picked : (source.pool.randomNode c).1 = .ok node) {reply : Json}
      {entries : List Json} (list : (reply.get? "snodes").bind Json.asArray? = some entries) :
      Fetched source account c [((node, .findSwarm account), .ok reply)]
        (.ok (Node.ofEntries entries))

theorem enters_fetch (source : SwarmSource ω) (account : String) (c : Client (ω × Questions)) :
    (source.watched.fetch account c).Enters Client.extra
      (fun answer asked => Fetched source account c.plain asked answer) c.extra := by
  have did : source.watched.pool.randomNode c
      = ((source.pool.randomNode c.plain).1, (source.pool.randomNode c.plain).2.widen c.extra) :=
    congrFun source.pool.randomNode_alongside c
  refine Job.enters_action_bind did [] (List.append_nil _).symm ?_
  cases picked : (source.pool.randomNode c.plain).1 with
  | error e => exact ⟨[], (List.append_nil _).symm, .nobody picked⟩
  | ok node =>
    have asked (c : Client (ω × Questions)) :
        (Work.apart (source.watched.ask node (.findSwarm account)) c).Enters Client.extra
          (fun answer asked => asked = [((node, .findSwarm account), answer)]) c.extra :=
      Work.enters_apart (fun _ _ => rfl)
        (Batch.enters_watched source.put (node, .findSwarm account) _)
    -- the one question is entered, and its answer decides what comes of it
    refine Job.enters_bind_at (asked _) ?_
    rintro answer _ rfl
    cases answer with
    | error e => exact Job.enters_pure (.failed picked e)
    | ok reply =>
      dsimp only
      cases list : (reply.get? "snodes").bind Json.asArray? with
      | none =>
        rw [Swarm.ofReply?, list]
        exact Job.enters_pure (.unlisted picked list)
      | some entries =>
        rw [Swarm.ofReply?, list]
        exact Job.enters_pure (.listed picked list)

/-- What comes of looking for a swarm, of which some list is known. -/
inductive Found (source : SwarmSource ω) (account : String) (known : List Node) (c : Client ω) :
    Questions → Except DirectoryFailure (List Node) → Prop
  /-- The list is large enough. -/
  | known (viable : source.minSwarm ≤ known.length) : Found source account known c [] (.ok known)
  /-- It is too small, and no other list can be had. -/
  | failed (small : known.length < source.minSwarm) {asked : Questions} {e : DirectoryFailure}
      (fetched : Fetched source account c asked (.error e)) :
      Found source account known c asked (.error e)
  /-- It is too small, and so is the other one. -/
  | tooSmall (small : known.length < source.minSwarm) {asked : Questions} {nodes : List Node}
      (fetched : Fetched source account c asked (.ok nodes))
      (few : nodes.length < source.minSwarm) :
      Found source account known c asked (.error (.swarmTooSmall account nodes.length))
  /-- The other one takes its place. -/
  | replaced (small : known.length < source.minSwarm) {asked : Questions} {nodes : List Node}
      (fetched : Fetched source account c asked (.ok nodes))
      (enough : source.minSwarm ≤ nodes.length) : Found source account known c asked (.ok nodes)

theorem enters_refetch (source : SwarmSource ω) (account : String) {known : List Node}
    (small : known.length < source.minSwarm) (c : Client (ω × Questions)) :
    (source.watched.refetch account c).Enters Client.extra
      (fun answer asked => Found source account known c.plain asked answer) c.extra := by
  unfold refetch
  refine Job.enters_bind_at (source.enters_fetch account c) ?_
  intro fetched asked holds
  cases fetched with
  | error e => exact Job.enters_pure (by rw [List.append_nil]; exact .failed small holds)
  | ok nodes =>
    dsimp only
    by_cases few : nodes.length < source.minSwarm
    · rw [if_pos (show nodes.length < source.watched.minSwarm from few)]
      exact Job.enters_pure (by rw [List.append_nil]; exact .tooSmall small holds few)
    · have enough : source.minSwarm ≤ nodes.length := Nat.le_of_not_lt few
      rw [if_neg (show ¬ nodes.length < source.watched.minSwarm from few)]
      intro c
      refine Job.enters_action_bind rfl [] (List.append_nil _).symm ?_
      exact Job.enters_pure (by simpa using Found.replaced small holds enough) _

theorem enters_get (source : SwarmSource ω) (account : String) (c : Client (ω × Questions)) :
    (source.watched.get account c).Enters Client.extra
      (fun answer asked => Found source account (c.swarms account)
        { c.plain with store := c.store.noteSwarm account } asked answer) c.extra := by
  rw [get_eq]
  by_cases viable : source.minSwarm ≤ (c.swarms account).length
  · rw [if_pos (show source.watched.minSwarm ≤ _ from viable)]
    exact ⟨[], (List.append_nil _).symm, .known viable⟩
  · rw [if_neg (show ¬ source.watched.minSwarm ≤ _ from viable)]
    exact source.enters_refetch account (Nat.lt_of_not_le viable) _

theorem coversJob_fetch (source : SwarmSource ω) (account : String) :
    Work.CoversJob (source.watched.fetch account) (source.fetch account) := by
  refine (Work.coversJob_ofAction fun c => ?_).bind fun picked => ?_
  · show _ = ((source.pool.alongside.randomNode c).1, (source.pool.alongside.randomNode c).2.plain)
    rw [SeedSource.randomNode_alongside]
    rfl
  · cases picked with
    | error e => exact Work.coversJob_pure _
    | ok node =>
      refine (Batch.coversJob_watched source.put (node, .findSwarm account)).apart.bind fun reply => ?_
      cases reply with
      | error e => exact Work.coversJob_pure _
      | ok reply =>
        dsimp only
        cases Swarm.ofReply? reply with
        | none => exact Work.coversJob_pure _
        | some nodes => exact Work.coversJob_pure _

/-- To watch the questions changes nothing. -/
theorem coversJob_get (source : SwarmSource ω) (account : String) :
    Work.CoversJob (source.watched.get account) (source.get account) := by
  refine (Work.coversJob_ofAction fun c => rfl).bind fun known => ?_
  by_cases viable : source.minSwarm ≤ known.length
  · rw [if_pos viable, if_pos (show source.watched.minSwarm ≤ known.length from viable)]
    exact Work.coversJob_pure _
  · rw [if_neg viable, if_neg (show ¬ source.watched.minSwarm ≤ known.length from viable)]
    refine (source.coversJob_fetch account).bind fun fetched => ?_
    cases fetched with
    | error e => exact Work.coversJob_pure _
    | ok nodes =>
      dsimp only
      by_cases few : nodes.length < source.minSwarm
      · rw [if_pos few, if_pos (show nodes.length < source.watched.minSwarm from few)]
        exact Work.coversJob_pure _
      · rw [if_neg few, if_neg (show ¬ nodes.length < source.watched.minSwarm from few)]
        exact (Work.coversJob_ofAction fun c => rfl).bind fun _ => Work.coversJob_pure _

/-- With its questions noted, the search comes to the same. -/
theorem exists_questions (source : SwarmSource ω) (account : String) (pass : Nat → Act ω Unit)
    (c : Client ω) :
    ∃ asked,
      (source.watched.get account).run (fun delay => (pass delay).alongside) (c.widen [])
        = (((source.get account).run pass c).1, ((source.get account).run pass c).2.widen asked) ∧
      Found source account (c.swarms account) { c with store := c.store.noteSwarm account } asked
        ((source.get account).run pass c).1 := by
  obtain ⟨asked, diary, ways⟩ := (source.enters_get account (c.widen [])).run
    (fun delay c => Act.extra_alongside (pass delay) c)
  have same := (source.coversJob_get account).run pass (c.widen [])
  rw [Client.plain_widen] at same
  rw [same]
  refine ⟨asked, ?_, ways⟩
  obtain rfl : _ = asked := diary
  rfl

section

variable {source : SwarmSource ω} {account : String} {known : List Node} {c : Client ω}
  {asked : Questions} {answer : Except DirectoryFailure (List Node)}

/-- If a node can be had it is asked one question, and else there is none. -/
theorem Fetched.questions (fetched : Fetched source account c asked answer) :
    match (source.pool.randomNode c).1 with
    | .error e => asked = [] ∧ answer = .error e
    | .ok node => ∃ reply, asked = [((node, .findSwarm account), reply)] := by
  cases fetched with
  | nobody failed =>
    rw [failed]
    exact ⟨rfl, rfl⟩
  | failed picked e =>
    rw [picked]
    exact ⟨_, rfl⟩
  | unlisted picked =>
    rw [picked]
    exact ⟨_, rfl⟩
  | listed picked =>
    rw [picked]
    exact ⟨_, rfl⟩

/-- As long as the known list is large enough, there is no question. -/
theorem Found.silent (found : Found source account known c asked answer)
    (viable : source.minSwarm ≤ known.length) : asked = [] := by
  cases found with
  | known => rfl
  | failed small => exact absurd viable (Nat.not_le.2 small)
  | tooSmall small => exact absurd viable (Nat.not_le.2 small)
  | replaced small => exact absurd viable (Nat.not_le.2 small)

/-- If it is too small, the questions are those for another list. -/
theorem Found.questions (found : Found source account known c asked answer)
    (small : known.length < source.minSwarm) :
    match source.pool.randomNode c with
    | (.error e, _) => asked = [] ∧ answer = .error e
    | (.ok node, left) => node ∈ left.store.viewPool ∧
        ∃ reply, asked = [((node, .findSwarm account), reply)] := by
  obtain ⟨fetched, fetch, same⟩ : ∃ fetched, Fetched source account c asked fetched ∧
      ∀ e, fetched = .error e → answer = .error e := by
    cases found with
    | known viable => exact absurd viable (Nat.not_le.2 small)
    | failed _ fetch => exact ⟨_, fetch, fun _ same => same⟩
    | tooSmall _ fetch => exact ⟨_, fetch, nofun⟩
    | replaced _ fetch => exact ⟨_, fetch, nofun⟩
  have questions := fetch.questions
  cases picked : source.pool.randomNode c with
  | mk result left =>
    rw [picked] at questions
    cases result with
    | error e => exact ⟨questions.1, same e questions.2⟩
    | ok node =>
      obtain ⟨pool, ensured, mem⟩ := SeedSource.mem_of_randomNode (congrArg Prod.fst picked)
      refine ⟨?_, questions⟩
      have store := source.pool.store_randomNode c
      rw [picked] at store
      rwa [store, (SeedSource.viewPool_ensure ensured).1]

end

/-! ### The swarm of an account -/

/-- **A swarm is viable, or nothing has changed.**

To want the swarm of an account, whatever is known and stored of it, whatever the pool, whatever the
nodes and seeds answer, and whatever others do while it waits:

* what is kept of all accounts stays as it is in every stretch but the last.  If the answer is a
  swarm, it is large enough, and it is the swarm of the account from then on, while other accounts
  are left alone.  If there is no swarm, the last stretch changes nothing either: not the swarm, not
  what is stored, and not the round;
* a known swarm that is large enough is the answer at once, and nobody is asked.  If it is too small,
  exactly one question is put, to a node of the pool, or none if no such node can be had, which is a
  failure.  The question may fail, its answer may have no list, or the list may be too small
  (`Found`), and noting the questions makes no difference. -/
theorem viable_or_unchanged (n : Network ω) (account : String) :
    (n.swarms.get account).Makes Client.keeping (fun before answer after =>
      match answer with
      | .ok nodes => n.swarms.minSwarm ≤ nodes.length ∧ (after account).swarm = nodes ∧
          after = Function.update before account (after account)
      | .error _ => after = before) ∧
    ∀ (pass : Nat → Act ω Unit) (c : Client ω),
      let looked := { c with store := c.store.noteSwarm account }
      let found := (n.swarms.get account).run pass c
      ∃ asked,
        (n.swarms.watched.get account).run (fun delay => (pass delay).alongside) (c.widen [])
          = (found.1, found.2.widen asked) ∧
        Found n.swarms account (c.swarms account) looked asked found.1 ∧
        if n.swarms.minSwarm ≤ (c.swarms account).length then
          asked = [] ∧ found = (.ok (c.swarms account), looked)
        else
          match n.swarms.pool.randomNode looked with
          | (.error e, _) => asked = [] ∧ found.1 = .error e
          | (.ok node, left) => node ∈ left.store.viewPool ∧
              ∃ answer, asked = [((node, .findSwarm account), answer)] := by
  refine ⟨makes_get n account, fun pass c => ?_⟩
  intro looked found
  obtain ⟨asked, noted, ways⟩ := n.swarms.exists_questions account pass c
  refine ⟨asked, noted, ways, ?_⟩
  -- a list that is large enough is the answer, and any other leads to the one question
  by_cases viable : n.swarms.minSwarm ≤ (c.swarms account).length
  · rw [if_pos viable]
    refine ⟨ways.silent viable, ?_⟩
    show (n.swarms.get account c).run pass = _
    rw [get_eq, if_pos viable]
    rfl
  · rw [if_neg viable]
    exact ways.questions (Nat.lt_of_not_le viable)

end SwarmSource
end OnionSwarm

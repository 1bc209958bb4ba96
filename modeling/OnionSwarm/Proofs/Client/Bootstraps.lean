/-
The pool is filled at most once, and as a whole.

What the client does when it needs the pool are the moves of one call, from the second look on
(`exists_moves_of_turn`) as well as from the start (`exists_moves_of_ensure`).  So what holds of
every crowd of calls, however their moves are mixed, holds of the client.
-/
import OnionSwarm.Proofs.Client.Crowds

namespace OnionSwarm.SeedSource

variable {ω : Type}

namespace Crowd

variable {source : SeedSource ω} {s : Crowd} {id : Nat} {m : Move}

/-! ### A call of the client -/

/-- The moves of one call, with no others in between. -/
def runAlone (source : SeedSource ω) (s : Crowd) (id : Nat) (moves : List Move) : Option Crowd :=
  run source s (moves.map (id, ·))

theorem runAlone_cons {v : Crowd} (moved : s.step source id m = some v) (rest : List Move) :
    runAlone source s id (m :: rest) = runAlone source v id rest := run_cons moved _

theorem runAlone_append {v : Crowd} {first : List Move}
    (ran : runAlone source s id first = some v) (next : List Move) :
    runAlone source s id (first ++ next) = runAlone source v id next := by
  rw [runAlone, List.map_append]
  exact run_append ran _

theorem runAlone_ask {seed : String} {answer : Except HttpFailure HttpReply}
    {read : Except DirectoryFailure (List Node)} (configured : seed ∈ source.seeds)
    (due : s.stage id = some .due) (means : readAnswer seed answer = read) :
    runAlone source s id [.ask (some seed), .hear answer]
      = some ((s.put id (.asks seed)).hear id read) := by
  have asks : s.step source id (.ask (some seed)) = some (s.put id (.asks seed)) := by
    simp only [step, due, if_pos configured]
  have asking : (s.put id (.asks seed)).stage id = some (.asks seed) := stage_put_self s id _
  have hears : (s.put id (.asks seed)).step source id (.hear answer)
      = some ((s.put id (.asks seed)).hear id read) := by
    simp only [step, asking, means]
  rw [runAlone_cons asks, runAlone_cons hears]
  rfl

/-- In every way in which asking a seed can end, it consists of such moves. -/
theorem exists_moves_of_refill {outside : ω} {store : Store} {asked : Requests}
    {answer : Except DirectoryFailure (List Node)}
    (refill : Refill source outside s.store asked answer store) (due : s.stage id = some .due) :
    ∃ (moves : List Move) (v : Crowd), runAlone source s id moves = some v ∧
      v.stage id = some (.done answer) ∧ v.store = store ∧ v.owner = s.owner ∧
      moves.filterMap Move.asked? = asked.map Prod.fst := by
  cases refill with
  | noSeeds seedless =>
    have gives : s.step source id (.ask none) = some (s.put id (.done (.error .noSeeds))) := by
      simp only [step, due, if_pos seedless]
    exact ⟨[.ask none], _, runAlone_cons gives [], stage_put_self s id _, rfl, rfl, rfl⟩
  | failed configured useless =>
    exact ⟨_, _, runAlone_ask configured due useless, stage_hear_self _ id _, rfl, rfl, rfl⟩
  | @filled seed configured reply json entries answered success parsed listed usable =>
    have read : readAnswer seed (source.post seed listing outside).1
        = .ok (Node.ofEntries entries) :=
      readAnswer_eq_ok_iff.2 ⟨reply, answered, success,
        Pool.ofSeedReply_eq_ok_iff.2 ⟨json, entries, parsed, listed, rfl, usable⟩⟩
    exact ⟨_, _, runAlone_ask configured due read, stage_hear_self _ id _, rfl, rfl, rfl⟩

/-- Where the pool is large enough, one look is all that the client does. -/
theorem look_of_viable {c : Client ω} (same : s.store = c.store) (viable : s.Viable source)
    (id : Nat) (otherwise : Stage) :
    (s.look source id otherwise).stage id = some (.done (source.ensure c).1) ∧
      (s.look source id otherwise).store = (source.ensure c).2.store ∧
      Asks source.ensure source.noted.ensure c [] := by
  have large : source.minPool ≤ c.store.viewPool.length := same ▸ viable
  refine ⟨?_, ?_, asks_ensure_of_viable large⟩
  · rw [stage_look_of_viable viable, ensure_of_viable large, same]
  · rw [ensure_of_viable large, ← same]
    rfl

/-- What the client does when it needs the pool are the moves of a call in its turn, whatever other
calls there are. -/
theorem exists_moves_of_turn {c : Client ω} (same : s.store = c.store)
    (turn : s.stage id = some (.turn false)) :
    ∃ (moves : List Move) (v : Crowd) (asked : Requests), runAlone source s id moves = some v ∧
      v.stage id = some (.done (source.ensure c).1) ∧ v.store = (source.ensure c).2.store ∧
      v.owner = s.owner ∧ Asks source.ensure source.noted.ensure c asked ∧
      moves.filterMap Move.asked? = asked.map Prod.fst := by
  have looks : s.step source id .look = some (s.look source id .due) := by
    simp only [step, turn]
    rfl
  by_cases viable : s.Viable source
  · obtain ⟨done, left, asks⟩ := look_of_viable same viable id .due
    exact ⟨[.look], _, [], runAlone_cons looks [], done, left, rfl, asks, rfl⟩
  · have small : c.store.viewPool.length < source.minPool := by
      rw [← same]
      exact Nat.lt_of_not_le viable
    obtain ⟨asked, asks, refill⟩ := exists_refill_ensure small
    have store : (s.look source id .due).store = c.store.notePool := by
      rw [← same]
      rfl
    rw [← store] at refill
    obtain ⟨moves, v, ran, done, left, owner, seeds⟩ :=
      exists_moves_of_refill refill (stage_look_of_small viable id _)
    refine ⟨.look :: moves, v, asked, (runAlone_cons looks moves).trans ran, done, left, owner, asks,
      ?_⟩
    rw [List.filterMap_cons_none rfl, seeds]

/-- If nobody has the turn, they are the moves of a call from its start to its end. -/
theorem exists_moves_of_ensure {c : Client ω} (same : s.store = c.store) (free : s.owner = none)
    (new : s.stage id = none) :
    ∃ (moves : List Move) (v : Crowd) (asked : Requests), runAlone source s id moves = some v ∧
      v.stage id = some (.done (source.ensure c).1) ∧ v.store = (source.ensure c).2.store ∧
      v.owner = s.owner ∧ Asks source.ensure source.noted.ensure c asked ∧
      moves.filterMap Move.asked? = asked.map Prod.fst := by
  have begins : s.step source id .ensure = some (s.look source id (.waits false)) := by
    simp only [step, new]
  by_cases viable : s.Viable source
  · obtain ⟨done, left, asks⟩ := look_of_viable same viable id (.waits false)
    exact ⟨[.ensure], _, [], runAlone_cons begins [], done, left, rfl, asks, rfl⟩
  · let waiting := s.look source id (.waits false)
    let entered := waiting.pass id (.turn false) (some id)
    have waits : waiting.stage id = some (.waits false) := stage_look_of_small viable id _
    have enters : waiting.step source id .enter = some entered := by
      have nobody : waiting.owner = none := free
      simp only [step, waits, if_pos nobody]
      rfl
    have noted : entered.store = c.store.notePool := by
      rw [← same]
      rfl
    have turn : entered.stage id = some (.turn false) := stage_pass_self waiting id _ _
    -- the call looks a second time, and finds what it has seen before
    obtain ⟨moves, v, asked, ran, done, left, owner, asks, seeds⟩ :=
      exists_moves_of_turn (c := { c with store := c.store.notePool }) noted turn
    rw [ensure_notePool] at done left
    have leaves : v.step source id .leave = some { v with owner := none } := by
      have own : v.owner = some id := owner
      simp only [step, done, if_pos own]
    refine ⟨.ensure :: .enter :: (moves ++ [.leave]), { v with owner := none }, asked, ?_, done,
      left, free.symm, asks_ensure_of_notePool asks, ?_⟩
    · rw [runAlone_cons begins, runAlone_cons enters, runAlone_append ran]
      exact runAlone_cons leaves []
    · rw [List.filterMap_cons_none rfl, List.filterMap_cons_none rfl, List.filterMap_append, seeds]
      exact List.append_nil _

end Crowd

/-! ### The pool as it is left -/

section

variable {source : SeedSource ω} {c : Client ω} {asked : Requests} {store left : Store}

theorem Refill.left_of_error {outside : ω} {e : DirectoryFailure}
    (refill : Refill source outside store asked (.error e) left) : left = store := by
  cases refill with
  | noSeeds seedless => rfl
  | failed configured useless => rfl

theorem Refill.left_of_ok {outside : ω} {nodes : List Node}
    (refill : Refill source outside store asked (.ok nodes) left) :
    left.viewPool = nodes ∧ nodes ≠ [] := by
  cases refill with
  | filled configured answered success parsed listed usable => exact ⟨rfl, usable⟩

/-- The pool that is handed out is the pool from then on, and is not empty if it is new. -/
theorem viewPool_ensure {pool : List Node} (answered : (source.ensure c).1 = .ok pool) :
    (source.ensure c).2.store.viewPool = pool ∧
      (c.store.viewPool.length < source.minPool → pool ≠ []) := by
  rcases Nat.lt_or_ge c.store.viewPool.length source.minPool with small | viable
  · obtain ⟨asked, -, refill⟩ := exists_refill_ensure small
    rw [answered] at refill
    obtain ⟨view, usable⟩ := refill.left_of_ok
    exact ⟨view, fun _ => usable⟩
  · rw [ensure_of_viable viable] at answered ⊢
    refine ⟨Except.ok.inj answered, ?_⟩
    intro small
    omega

theorem untouched_ensure {e : DirectoryFailure} (failed : (source.ensure c).1 = .error e) :
    Untouched c.store (source.ensure c).2.store := by
  rcases Nat.lt_or_ge c.store.viewPool.length source.minPool with small | viable
  · obtain ⟨asked, -, refill⟩ := exists_refill_ensure small
    rw [failed] at refill
    rw [refill.left_of_error]
    exact ⟨rfl, rfl⟩
  · rw [ensure_of_viable viable]
    exact ⟨rfl, rfl⟩

theorem store_randomNode (source : SeedSource ω) (c : Client ω) :
    (source.randomNode c).2.store = (source.ensure c).2.store := by
  rw [randomNode_eq]
  cases source.ensure c with
  | mk answer left => cases answer <;> rfl

theorem randomNode_of_error {e : DirectoryFailure} (failed : (source.ensure c).1 = .error e) :
    (source.randomNode c).1 = .error e := by
  rw [randomNode_eq]
  cases ensured : source.ensure c with
  | mk answer left =>
    rw [ensured] at failed
    obtain rfl : answer = .error e := failed
    rfl

/-- The node that is picked is one of the pool. -/
theorem mem_of_randomNode {n : Node} (picked : (source.randomNode c).1 = .ok n) :
    ∃ pool, (source.ensure c).1 = .ok pool ∧ n ∈ pool := by
  rw [randomNode_eq] at picked
  cases ensured : source.ensure c with
  | mk answer left =>
    rw [ensured] at picked
    cases answer with
    | error e => cases picked
    | ok pool =>
      refine ⟨pool, rfl, ?_⟩
      dsimp only at picked
      split at picked
      · rename_i chosen
        obtain rfl := Except.ok.inj picked
        exact Dice.mem_of_pick? chosen
      · cases picked

/-- From a pool that is not empty some node is picked. -/
theorem exists_randomNode {pool : List Node} (answered : (source.ensure c).1 = .ok pool)
    (nonempty : pool ≠ []) : ∃ n, (source.randomNode c).1 = .ok n := by
  rw [randomNode_eq]
  cases ensured : source.ensure c with
  | mk answer left =>
    rw [ensured] at answered
    obtain rfl : answer = .ok pool := answered
    obtain ⟨n, chosen⟩ := left.dice.exists_pick? nonempty
    refine ⟨n, ?_⟩
    dsimp only
    rw [chosen]

theorem untouched_randomNode {e : DirectoryFailure}
    (failed : (source.randomNode c).1 = .error e) :
    Untouched c.store (source.randomNode c).2.store := by
  rw [store_randomNode]
  cases ensured : (source.ensure c).1 with
  | error e' => exact untouched_ensure ensured
  | ok pool =>
    rcases Nat.lt_or_ge c.store.viewPool.length source.minPool with small | viable
    · obtain ⟨n, picked⟩ := exists_randomNode ensured ((viewPool_ensure ensured).2 small)
      cases failed.symm.trans picked
    · rw [ensure_of_viable viable]
      exact ⟨rfl, rfl⟩

end

/-- **The pool is filled by one request at most, and as a whole or not at all.**

If the pool is large enough, whoever needs it, or a node of it, has it without a request.  Otherwise
one request is made, to a configured seed, or none if there is no seed; whatever comes of it is one
of the cases of `Refill`.  A pool that is handed out is the pool from then on, the new one is not
empty, and a node that is picked is in it.  After every failure the pool and storage are as before.

In every crowd of calls, whatever their moves and in which order:

* at most one is about to ask a seed, or has asked one and not heard yet;
* each asks at most once, and a configured seed;
* a call that fails leaves the pool and storage as they were;
* as long as all of them want no more than a pool that is large enough, one that waits while another
  makes the pool large enough never asks, and has such a pool when it is done.

What the client does when it needs the pool are the moves of one call, with the same requests: of a
call in its turn, whatever other calls there are, and of a whole call if nobody has the turn. -/
theorem pool_filled_once (source : SeedSource ω) :
    (∀ c : Client ω, ∃ asked,
      Asks source.ensure source.noted.ensure c asked ∧
      Asks source.randomNode source.noted.randomNode c asked ∧
      (source.minPool ≤ c.store.viewPool.length →
        asked = [] ∧ (source.ensure c).1 = .ok c.store.viewPool) ∧
      (c.store.viewPool.length < source.minPool →
        Refill source c.outside c.store.notePool asked (source.ensure c).1
          (source.ensure c).2.store) ∧
      (∀ pool, (source.ensure c).1 = .ok pool → (source.ensure c).2.store.viewPool = pool ∧
        (c.store.viewPool.length < source.minPool → pool ≠ [])) ∧
      (∀ n, (source.randomNode c).1 = .ok n → n ∈ (source.randomNode c).2.store.viewPool) ∧
      (∀ e, (source.ensure c).1 = .error e →
        Untouched c.store (source.ensure c).2.store ∧ (source.randomNode c).1 = .error e) ∧
      ∀ e, (source.randomNode c).1 = .error e →
        Untouched c.store (source.randomNode c).2.store) ∧
    (∀ (store : Store) (moves : List (Nat × Move)) (s : Crowd),
      Crowd.run source (.start store) moves = some s →
      (∀ id other a b, s.stage id = some a → s.stage other = some b → a.refills = true →
        b.refills = true → id = other) ∧
      (∀ id, moves.countP (fun p => p.1 == id && p.2.isAsk) ≤ 1) ∧
      (∀ id seed, (id, .ask (some seed)) ∈ moves → seed ∈ source.seeds) ∧
      ((∀ p ∈ moves, p.2.isModest = true) →
        ∀ before after id other answer regardless u v,
          moves = before ++ (other, .hear answer) :: after →
          Crowd.run source (.start store) before = some u →
          u.stage id = some (.waits regardless) →
          u.step source other (.hear answer) = some v → v.Viable source →
            (∀ seed, (id, .ask seed) ∉ moves) ∧
            ∀ told, s.stage id = some (.done told) →
              ∃ pool, told = .ok pool ∧ source.minPool ≤ pool.length)) ∧
    (∀ (u v : Crowd) (id : Nat) (m : Move) (e : DirectoryFailure), u.step source id m = some v →
      (∀ nodes, m ≠ .replace nodes) → v.stage id = some (.done (.error e)) →
        Untouched u.store v.store) ∧
    ∀ (c : Client ω) (s : Crowd) (id : Nat), s.store = c.store →
      (s.stage id = some (.turn false) ∨ s.owner = none ∧ s.stage id = none) →
        ∃ moves v asked, Crowd.runAlone source s id moves = some v ∧
          v.stage id = some (.done (source.ensure c).1) ∧ v.store = (source.ensure c).2.store ∧
          v.owner = s.owner ∧ Asks source.ensure source.noted.ensure c asked ∧
          moves.filterMap Move.asked? = asked.map Prod.fst := by
  refine ⟨?_, ?_, ?_, ?_⟩
  · intro c
    have member : ∀ n, (source.randomNode c).1 = .ok n →
        n ∈ (source.randomNode c).2.store.viewPool := by
      intro n picked
      obtain ⟨pool, answered, mem⟩ := mem_of_randomNode picked
      rwa [store_randomNode, (viewPool_ensure answered).1]
    have failed : ∀ e, (source.ensure c).1 = .error e →
        Untouched c.store (source.ensure c).2.store ∧ (source.randomNode c).1 = .error e :=
      fun e failed => ⟨untouched_ensure failed, randomNode_of_error failed⟩
    -- only a pool that is too small is asked for
    rcases Nat.lt_or_ge c.store.viewPool.length source.minPool with small | viable
    · obtain ⟨asked, asks, refill⟩ := exists_refill_ensure small
      refine ⟨asked, asks, asks_randomNode asks, ?_, fun _ => refill, fun pool => viewPool_ensure,
        member, failed, fun e => untouched_randomNode⟩
      intro viable
      omega
    · have asks := asks_ensure_of_viable viable
      refine ⟨[], asks, asks_randomNode asks, ?_, ?_, fun pool => viewPool_ensure, member, failed,
        fun e => untouched_randomNode⟩
      · intro _
        rw [ensure_of_viable viable]
        exact ⟨rfl, rfl⟩
      · intro small
        omega
  · intro store moves s ran
    have ok := Crowd.orderly_of_run ran (Crowd.orderly_start store)
    refine ⟨?_, ?_, ?_, ?_⟩
    · intro id other a b mine theirs first second
      exact ok.eq_of_inTurn mine theirs (Stage.inTurn_of_refills first)
        (Stage.inTurn_of_refills second)
    · intro id
      exact Crowd.countP_isAsk_le ran
    · intro id seed asked
      exact Crowd.configured_of_asked ran asked
    · rintro modest before after id other answer regardless u v rfl ranBefore waits heard viable
      exact Crowd.not_asks_of_viable ran modest ranBefore waits heard viable
  · intro u v id m e moved own done
    exact (Crowd.steps_of_step moved).untouched_of_error own done
  · rintro c s id same (turn | ⟨free, new⟩)
    · exact Crowd.exists_moves_of_turn same turn
    · exact Crowd.exists_moves_of_ensure same free new

/-- One node, as a seed lists it. -/
def trialState : Json :=
  .object [("pubkey_ed25519", .text (String.ofList (List.replicate 64 'a'))),
    ("pubkey_x25519", .text (String.ofList (List.replicate 64 'b'))),
    ("public_ip", .text "10.0.0.1"), ("storage_port", .nat 22021)]

/-- The node as it is known then. -/
def trialKnown : Node :=
  ⟨"https://10.0.0.1", 22021,
    ⟨String.ofList (List.replicate 64 'a'), String.ofList (List.replicate 64 'b')⟩, ⟨0, 0, 0⟩⟩

/-- A list with this node only. -/
def trialStates : Json :=
  .object [("result", .object [("service_node_states", .array [trialState])])]

/-- What a seed answers. -/
def trialListing : HttpReply := ⟨200, trialStates.toBytes⟩

/-- One seed, which answers so. -/
def trialSeed : SeedSource Unit := ⟨["https://seed"], 1, fun _ _ w => (.ok trialListing, w)⟩

theorem readAnswer_trialListing (seed : String) :
    readAnswer seed (.ok trialListing) = .ok [trialKnown] := by
  have kept : Json.Kept Json.deepest trialStates := by
    refine ⟨by decide, ⟨by decide, ⟨⟨by decide, ?_⟩, trivial⟩, trivial⟩, trivial⟩
    exact ⟨trivial, trivial, trivial, Json.fits_nat (by decide), trivial⟩
  have parsed : Json.parse trialStates.toBytes = .ok trialStates := Json.parse_toBytes kept
  have usable : Node.ofEntries [trialState] = [trialKnown] := by decide +kernel
  have listed : Pool.ofSeedReply trialStates.toBytes = .ok [trialKnown] :=
    Pool.ofSeedReply_eq_ok_iff.2 ⟨trialStates, [trialState], parsed, rfl, usable, nofun⟩
  have success : isSuccess 200 = true := by decide
  simp only [readAnswer, trialListing, success, if_true, listed]

/-- Two calls.  The first fills the pool while the second waits. -/
def trialCrowd : List (Nat × Move) :=
  [(1, .ensure), (2, .ensure), (1, .enter), (1, .look), (1, .ask (some "https://seed")),
    (1, .hear (.ok trialListing)), (1, .leave), (2, .enter), (2, .look), (2, .leave)]

/-- The calls before the answer of the seed comes. -/
def trialAsking : Crowd :=
  (Crowd.run trialSeed (.start (.fresh .empty)) (trialCrowd.take 5)).getD (.start (.fresh .empty))

theorem run_trialAsking :
    Crowd.run trialSeed (.start (.fresh .empty)) (trialCrowd.take 5) = some trialAsking ∧
      trialAsking.stage 1 = some (.asks "https://seed") ∧
      trialAsking.stage 2 = some (.waits false) := by
  refine ⟨rfl, by decide +kernel, by decide +kernel⟩

theorem hear_trialAsking :
    trialAsking.step trialSeed 1 (.hear (.ok trialListing))
      = some (trialAsking.hear 1 (.ok [trialKnown])) := by
  simp only [Crowd.step, run_trialAsking.2.1, readAnswer_trialListing]

theorem pool_filled_once_trialSeed :
    let c : Client Unit := .start .empty .zero ()
    (∃ asked, Asks trialSeed.ensure trialSeed.noted.ensure c asked ∧
      Refill trialSeed () c.store.notePool asked (trialSeed.ensure c).1
        (trialSeed.ensure c).2.store) ∧
    ∃ s told, Crowd.run trialSeed (.start c.store) trialCrowd = some s ∧
      (∀ seed, (2, .ask seed) ∉ trialCrowd) ∧ s.stage 2 = some (.done told) ∧
      (∃ pool, told = .ok pool ∧ trialSeed.minPool ≤ pool.length) ∧
      ∃ moves v, Crowd.runAlone trialSeed (.start c.store) 3 moves = some v ∧
        v.stage 3 = some (.done (trialSeed.ensure c).1) := by
  intro c
  obtain ⟨alone, crowds, -, ensures⟩ := pool_filled_once trialSeed
  obtain ⟨asked, asks, -, -, refilled, -⟩ := alone c
  have small : c.store.viewPool.length < trialSeed.minPool := by decide
  have ranBefore : Crowd.run trialSeed (.start c.store) (trialCrowd.take 5) = some trialAsking :=
    run_trialAsking.1
  have waits := run_trialAsking.2.2
  have viable : (trialAsking.hear 1 (.ok [trialKnown])).Viable trialSeed := by decide
  obtain ⟨s, ranAfter, done⟩ := Option.map_eq_some_iff.1 (show
    (Crowd.run trialSeed (trialAsking.hear 1 (.ok [trialKnown])) (trialCrowd.drop 6)).map
      (·.stage 2) = some (some (.done (.ok [trialKnown]))) by decide +kernel)
  have ran : Crowd.run trialSeed (.start c.store) trialCrowd = some s := by
    have form : trialCrowd
        = trialCrowd.take 5 ++ (1, .hear (.ok trialListing)) :: trialCrowd.drop 6 := rfl
    rw [form, Crowd.run_append ranBefore, Crowd.run_cons hear_trialAsking]
    exact ranAfter
  have modest : ∀ p ∈ trialCrowd, p.2.isModest = true := by decide
  obtain ⟨quiet, content⟩ := (crowds c.store trialCrowd s ran).2.2.2 modest _ _ 2 1 _ false _ _ rfl
    ranBefore waits hear_trialAsking viable
  obtain ⟨moves, left, -, ranAlone, told, -⟩ := ensures c (.start c.store) 3 rfl (.inr ⟨rfl, rfl⟩)
  exact ⟨⟨asked, asks, refilled small⟩, s, _, ran, quiet, done, content _ done, moves, left,
    ranAlone, told⟩

end OnionSwarm.SeedSource

/-
How the pool is filled up.

Whoever needs the pool looks at it first, and asks a seed only if it is too small.  A seed may fail
in many ways, and in all of them the pool stays as it was, in memory and in storage; only a usable
list replaces it, as a whole.  `Refill` has one case for each way in which this can end.

To see what is asked, the requests are noted beside the world; nothing else changes by that.
-/
import OnionSwarm.Proofs.Client.Alongside
import OnionSwarm.Proofs.Client.Paths

namespace OnionSwarm

/-- What a seed's list amounts to. -/
theorem Pool.ofSeedReply_eq_ok_iff {body : Bytes} {nodes : List Node} :
    ofSeedReply body = .ok nodes ↔ ∃ reply entries, Json.parse body = .ok reply ∧
      ((reply.get? "result").bind (Json.get? "service_node_states")).bind Json.asArray?
        = some entries ∧ Node.ofEntries entries = nodes ∧ nodes ≠ [] := by
  unfold ofSeedReply
  constructor
  · intro read
    split at read
    · cases read
    · rename_i reply parsed
      split at read
      · cases read
      · rename_i entries listed
        split at read
        · cases read
        · rename_i usable
          obtain rfl := Except.ok.inj read
          exact ⟨reply, entries, parsed, listed, rfl, usable⟩
  · rintro ⟨reply, entries, parsed, listed, rfl, usable⟩
    simp only [parsed, listed]

namespace SeedSource

variable {ω α : Type}

theorem readAnswer_eq_ok_iff {seed : String} {answer : Except HttpFailure HttpReply}
    {nodes : List Node} :
    readAnswer seed answer = .ok nodes ↔
      ∃ reply, answer = .ok reply ∧ isSuccess reply.status = true ∧
        Pool.ofSeedReply reply.body = .ok nodes := by
  cases answer with
  | error e => simp [readAnswer]
  | ok reply =>
    by_cases success : isSuccess reply.status = true
    · simp [readAnswer, success]
    · simp [readAnswer, success]

/-! ### What is asked -/

/-- Requests, each with the seed that it was sent to. -/
abbrev Requests := List (String × Bytes)

/-- The source in a world in which all requests are noted. -/
def noted (source : SeedSource ω) : SeedSource (ω × Requests) where
  seeds := source.seeds
  minPool := source.minPool
  post seed body := fun w =>
    let (answer, left) := source.post seed body w.1
    (answer, (left, w.2 ++ [(seed, body)]))

/-- An operation makes these requests: with its requests noted it does the same, and these are the
notes. -/
def Asks (act : Act ω α) (noted : Act (ω × Requests) α) (c : Client ω) (asked : Requests) : Prop :=
  noted (c.widen []) = ((act c).1, (act c).2.widen asked)

/-- The request for the list of all nodes. -/
def listing : Bytes := NodeCall.listNodes.toBytes

/-! ### How it ends -/

/-- The pool and storage are as before. -/
def Untouched (store left : Store) : Prop :=
  left.viewPool = store.viewPool ∧ left.disk = store.disk

/-- What comes of asking a seed for the pool: the requests, the answer and the store. -/
inductive Refill (source : SeedSource ω) (outside : ω) (store : Store) :
    Requests → Except DirectoryFailure (List Node) → Store → Prop
  /-- There is no seed. -/
  | noSeeds (seedless : source.seeds = []) :
    Refill source outside store [] (.error .noSeeds) store
  /-- The seed cannot be reached, refuses, or answers with something that is of no use. -/
  | failed {seed : String} (configured : seed ∈ source.seeds) {e : DirectoryFailure}
    (useless : readAnswer seed (source.post seed listing outside).1 = .error e) :
    Refill source outside store [(seed, listing)] (.error e) store
  /-- The seed answers with a list. -/
  | filled {seed : String} (configured : seed ∈ source.seeds) {reply : HttpReply} {json : Json}
    {entries : List Json} (answered : (source.post seed listing outside).1 = .ok reply)
    (success : isSuccess reply.status = true) (parsed : Json.parse reply.body = .ok json)
    (listed : ((json.get? "result").bind (Json.get? "service_node_states")).bind Json.asArray?
      = some entries) (usable : Node.ofEntries entries ≠ []) :
    Refill source outside store [(seed, listing)] (.ok (Node.ofEntries entries))
      (store.setPool (Node.ofEntries entries))

theorem refresh_eq (source : SeedSource ω) (c : Client ω) :
    source.refresh c
      = match (c.dice.pick? source.seeds).1 with
        | none => (.error .noSeeds, { c with dice := (c.dice.pick? source.seeds).2 })
        | some seed =>
          match readAnswer seed (source.post seed listing c.outside).1 with
          | .error e =>
            (.error e, { c with dice := (c.dice.pick? source.seeds).2
                                outside := (source.post seed listing c.outside).2 })
          | .ok nodes =>
            (.ok nodes, { c with dice := (c.dice.pick? source.seeds).2
                                 outside := (source.post seed listing c.outside).2
                                 store := c.store.setPool nodes }) := by
  unfold refresh
  rw [Act.bind_apply, Act.ofDice_apply]
  cases (c.dice.pick? source.seeds).1 with
  | none => rfl
  | some seed =>
    simp only [Act.bind_apply, Act.ofOutside_apply]
    rw [← listing]
    cases readAnswer seed (source.post seed listing c.outside).1 <;> rfl

/-- To refresh the pool is to ask a seed once, if there is one. -/
theorem exists_refill (source : SeedSource ω) (c : Client ω) :
    ∃ asked, Asks source.refresh source.noted.refresh c asked ∧
      Refill source c.outside c.store asked (source.refresh c).1 (source.refresh c).2.store := by
  unfold Asks
  have dice : (c.widen ([] : Requests)).dice = c.dice := rfl
  have seeds : source.noted.seeds = source.seeds := rfl
  rw [refresh_eq, refresh_eq, dice, seeds]
  -- the dice choose the same seed whether requests are noted or not
  cases picked : (c.dice.pick? source.seeds).1 with
  | none =>
    refine ⟨[], rfl, .noSeeds ?_⟩
    by_contra some
    obtain ⟨seed, chosen⟩ := c.dice.exists_pick? some
    rw [picked] at chosen
    cases chosen
  | some seed =>
    have configured : seed ∈ source.seeds := Dice.mem_of_pick? picked
    have answer : (source.noted.post seed listing (c.widen []).outside).1
        = (source.post seed listing c.outside).1 := rfl
    refine ⟨[(seed, listing)], ?_⟩
    dsimp only
    rw [answer]
    cases read : readAnswer seed (source.post seed listing c.outside).1 with
    | error e => exact ⟨rfl, .failed configured read⟩
    | ok nodes =>
      obtain ⟨reply, answered, success, body⟩ := readAnswer_eq_ok_iff.1 read
      obtain ⟨json, entries, parsed, listed, rfl, usable⟩ := Pool.ofSeedReply_eq_ok_iff.1 body
      exact ⟨rfl, .filled configured answered success parsed listed usable⟩

/-! ### The pool is wanted -/

theorem ensure_of_viable {source : SeedSource ω} {c : Client ω}
    (viable : source.minPool ≤ c.store.viewPool.length) :
    source.ensure c = (.ok c.store.viewPool, { c with store := c.store.notePool }) := by
  rw [ensure_eq, if_pos viable]

theorem ensure_of_small {source : SeedSource ω} {c : Client ω}
    (small : c.store.viewPool.length < source.minPool) :
    source.ensure c = source.refresh { c with store := c.store.notePool } := by
  rw [ensure_eq, if_neg (Nat.not_le.2 small)]

theorem asks_ensure_of_viable {source : SeedSource ω} {c : Client ω}
    (viable : source.minPool ≤ c.store.viewPool.length) :
    Asks source.ensure source.noted.ensure c [] := by
  unfold Asks
  rw [ensure_of_viable viable]
  exact ensure_of_viable viable

theorem exists_refill_ensure {source : SeedSource ω} {c : Client ω}
    (small : c.store.viewPool.length < source.minPool) :
    ∃ asked, Asks source.ensure source.noted.ensure c asked ∧
      Refill source c.outside c.store.notePool asked (source.ensure c).1
        (source.ensure c).2.store := by
  obtain ⟨asked, asks, refill⟩ := source.exists_refill { c with store := c.store.notePool }
  rw [ensure_of_small small]
  refine ⟨asked, ?_, refill⟩
  unfold Asks at asks ⊢
  rw [ensure_of_small small, ← asks]
  exact ensure_of_small small

/-- To have looked at the pool before makes no difference. -/
theorem ensure_notePool (source : SeedSource ω) (c : Client ω) :
    source.ensure { c with store := c.store.notePool } = source.ensure c := by
  rw [ensure_eq, ensure_eq]
  rfl

theorem asks_ensure_of_notePool {source : SeedSource ω} {c : Client ω} {asked : Requests}
    (asks : Asks source.ensure source.noted.ensure { c with store := c.store.notePool } asked) :
    Asks source.ensure source.noted.ensure c asked := by
  unfold Asks at asks ⊢
  rw [ensure_notePool] at asks
  rw [← asks]
  exact (ensure_notePool source.noted (c.widen [])).symm

theorem randomNode_eq (source : SeedSource ω) (c : Client ω) :
    source.randomNode c
      = match source.ensure c with
        | (.error e, c) => (.error e, c)
        | (.ok pool, c) =>
          ((match (c.dice.pick? pool).1 with
            | some n => .ok n
            | none => .error .emptyPool),
            { c with dice := (c.dice.pick? pool).2 }) := by
  unfold randomNode
  rw [Act.bind_apply]
  cases source.ensure c with
  | mk answer left =>
    cases answer with
    | error e => rfl
    | ok pool =>
      simp only [Act.bind_apply, Act.ofDice_apply]
      cases (left.dice.pick? pool).1 <;> rfl

/-- A random node is picked from the pool, and nothing is asked for that. -/
theorem asks_randomNode {source : SeedSource ω} {c : Client ω} {asked : Requests}
    (asks : Asks source.ensure source.noted.ensure c asked) :
    Asks source.randomNode source.noted.randomNode c asked := by
  unfold Asks at asks ⊢
  rw [randomNode_eq, randomNode_eq, asks]
  cases source.ensure c with
  | mk answer left =>
    cases answer with
    | error e => rfl
    | ok pool => rfl

end SeedSource
end OnionSwarm

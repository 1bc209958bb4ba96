/-
The time of the network, when several calls ask for it at once.

What a call of the client does in its turn is what a call in the line does: it looks, and only if
it has to, asks a few nodes and is done with what they say (`resyncSince_moves`).  So what holds of
every line of calls, however their moves are mixed, holds of the client.
-/
import OnionSwarm.Proofs.Client.Membership
import OnionSwarm.Proofs.Clock.Found

namespace OnionSwarm

open Clock

variable {ω : Type}

/-! ### A turn of the client -/

namespace Network

theorem keeps_sample (n : Network ω) : Act.Keeps Client.affairs n.clock.sample :=
  (ClockSource.errands_sample fun target call => (n.errands_rpc target call).map _).keeps_affairs

end Network

namespace ClockSource

variable (source : ClockSource ω)

/-- The client after a look at its own clock. -/
def looked (c : Client ω) : Client ω := { c with outside := (source.timer.instant c.outside).2 }

theorem resync_eq (c : Client ω) :
    source.resync c
      = source.resyncSince (source.timer.instant c.outside).1 (source.looked c) := rfl

theorem resyncSince_eq (requested : Nat) (c : Client ω) :
    source.resyncSince requested c
      = match verdict source.interval c.lastSync requested (source.timer.instant c.outside).1 with
        | .found => (true, source.looked c)
        | .tooSoon => (false, source.looked c)
        | .ask =>
          match source.sample (source.looked c) with
          | (none, c') => (false, c')
          | (some time, c') =>
            let now := (source.timer.instant c'.outside).1
            (true,
              { source.looked c' with reading := some ⟨now, time⟩, lastSync := some now }) := by
  unfold resyncSince
  simp only [Act.bind_apply, Act.ofOutside_apply, Act.get_apply]
  cases verdict source.interval c.lastSync requested (source.timer.instant c.outside).1 with
  | found => rfl
  | tooSoon => rfl
  | ask =>
    simp only [Act.bind_apply]
    rw [← looked]
    cases source.sample (source.looked c) with
    | mk time c' =>
      cases time with
      | none => rfl
      | some time => rfl

/-- What a client does in its turn are moves of a call that is as far and knows as much. -/
theorem resyncSince_moves (kept : Act.Keeps Client.clock source.sample) {c : Client ω} {u : Line}
    {id requested : Nat} (same : c.clock = u.clock) (own : u.owner = some id)
    (waits : u.progress id = some (.waiting requested)) :
    ∃ moves v, Line.run source.interval u moves = some v ∧
      v.progress id = some (.done (source.resyncSince requested c).1) ∧
      (source.resyncSince requested c).2.clock = v.clock ∧
      (moves = [(id, .look (source.timer.instant c.outside).1)] ∧
          (source.resyncSince requested c).2 = source.looked c ∨
        ∃ now, moves = [(id, .look (source.timer.instant c.outside).1),
          (id, .finish now (source.sample (source.looked c)).1)]) := by
  let now := (source.timer.instant c.outside).1
  let s : Line := { u with turns := u.turns.enter source.interval id requested now }
  have looks : u.step source.interval id (.look now) = some s := Line.step_look waits own now
  have clock : s.clock = c.clock := (Line.clock_enter u requested now).trans same.symm
  have judged : s.progress id
      = some ((verdict source.interval c.lastSync requested now).progress requested) := by
    have lastFound : u.turns.lastFound = c.lastSync := congrArg Prod.snd same.symm
    rw [← lastFound]
    exact (Line.progress_enter _ _ _ _ _).trans (if_pos rfl)
  -- what is known when the call looks decides whether it has a second move
  rw [resyncSince_eq]
  cases v : verdict source.interval c.lastSync requested now with
  | found =>
    rw [v] at judged
    refine ⟨[(id, .look now)], s, ?_, judged, clock.symm, .inl ⟨rfl, rfl⟩⟩
    rw [Line.run, looks]
    rfl
  | tooSoon =>
    rw [v] at judged
    refine ⟨[(id, .look now)], s, ?_, judged, clock.symm, .inl ⟨rfl, rfl⟩⟩
    rw [Line.run, looks]
    rfl
  | ask =>
    rw [v] at judged
    have sampled := kept (source.looked c)
    cases found : source.sample (source.looked c) with
    | mk time c' =>
      rw [found] at sampled
      let now' := (source.timer.instant c'.outside).1
      refine ⟨[(id, .look now), (id, .finish now' time)],
        { s with turns := s.turns.answer id now' time }, ?_, ?_, ?_, .inr ⟨now', rfl⟩⟩
      · rw [Line.run, looks, Option.bind_some, Line.run, Line.step_finish judged own]
        rfl
      · rw [Line.progress_answer, if_pos rfl]
        cases time <;> rfl
      · cases time with
        | none => exact sampled.trans clock.symm
        | some time => rfl

end ClockSource

/-! ### Calls at once -/

namespace Network

/-- **Several calls for the time at once.**  In every run of any number of calls, whatever moves
they make in which order, as long as the clock does not go back:

* at most one asks the nodes at a time;
* a call is told that the time is known exactly if it found the time itself, or if the time had been
  found since its request when it got its turn; then it asks nobody;
* a call that finds in its turn that the time was found before its request, but less than the
  interval ago, is told no and asks nobody;
* a call that asks in vain changes neither the time nor when it was found;
* from every instant at which the time is found until somebody begins to ask again, at least the
  interval passes.

The run is also one of `Turns`, and what a client does in its turn are moves of such a run: a look,
and, only if it then has to ask, the sampling. -/
theorem resync_coalesces (n : Network ω) {moves : List (Nat × Move)} {s : Line}
    (ran : Line.run n.clock.interval .start moves = some s)
    (ordered : (Line.instants moves).Pairwise (· ≤ ·)) :
    (∀ id other r r', s.progress id = some (.asking r) → s.progress other = some (.asking r') →
      id = other) ∧
    (∀ id found, s.progress id = some (.done found) →
      (found = true ↔ (∃ now time, (id, .finish now (some time)) ∈ moves) ∨
        Line.FoundMeanwhile n.clock.interval moves id)) ∧
    (∀ id, Line.FoundMeanwhile n.clock.interval moves id →
      Line.NeverAsks n.clock.interval moves id) ∧
    (∀ id before after u requested last now, moves = before ++ (id, .look now) :: after →
      Line.run n.clock.interval .start before = some u → (id, .request requested) ∈ before →
      u.turns.lastFound = some last → last < requested → now - last < n.clock.interval →
        s.progress id = some (.done false) ∧ Line.NeverAsks n.clock.interval moves id) ∧
    (∀ (u v : Line) id now, u.step n.clock.interval id (.finish now none) = some v →
      v.clock = u.clock) ∧
    (∀ before mid after id other found time now requested v,
      moves = before ++ (id, .finish found (some time)) :: mid ++ (other, .look now) :: after →
      Line.run n.clock.interval .start (before ++ (id, .finish found (some time)) :: mid
        ++ [(other, .look now)]) = some v →
      v.progress other = some (.asking requested) → found + n.clock.interval ≤ now) ∧
    Turns.run n.clock.interval .start (Line.events moves) = some s.turns ∧
    ∀ (c : Client ω) (u : Line) id requested, c.clock = u.clock → u.owner = some id →
      u.progress id = some (.waiting requested) →
        ∃ moves v, Line.run n.clock.interval u moves = some v ∧
          v.progress id = some (.done (n.clock.resyncSince requested c).1) ∧
          (n.clock.resyncSince requested c).2.clock = v.clock ∧
          (moves = [(id, .look (n.timer.instant c.outside).1)] ∧
              (n.clock.resyncSince requested c).2 = n.clock.looked c ∨
            ∃ now, moves = [(id, .look (n.timer.instant c.outside).1),
              (id, .finish now (n.clock.sample (n.clock.looked c)).1)]) := by
  refine ⟨?_, ?_, ?_, ?_, ?_, ?_, ?_, ?_⟩
  · intro id other r r' asks asks'
    exact Line.eq_of_asking ran asks asks'
  · intro id found done
    exact Line.found_iff ran done
  · intro id meanwhile
    exact (Line.told_of_foundMeanwhile ran meanwhile).1
  · rintro id before after u requested last now rfl ranBefore made lastFound early recent
    exact Line.told_of_tooSoon ran ranBefore made lastFound early recent
  · intro u v id now failed
    exact Line.clock_of_failed failed
  · rintro before mid after id other found time now requested v rfl ranLook asks
    exact Line.interval_le ranLook ordered asks
  · exact Line.run_turns ran Line.orderly_start
  · intro c u id requested same own waits
    exact n.clock.resyncSince_moves (n.keeps_sample.part Prod.snd) same own waits

/-- Three calls.  The first finds the time while the second waits; the third comes too soon. -/
def trialMoves : List (Nat × Move) :=
  [(1, .request 10), (1, .enter), (2, .request 12), (1, .look 15), (1, .finish 20 (some 1000)),
    (1, .leave), (2, .enter), (3, .request 25), (2, .look 26), (2, .leave), (3, .enter),
    (3, .look 30), (3, .leave)]

theorem resync_coalesces_trialMoves :
    let n := SwarmApi.trialNetwork SwarmApi.disguise
    ∃ s, Line.run n.clock.interval .start trialMoves = some s ∧
      (Line.instants trialMoves).Pairwise (· ≤ ·) ∧
      s.progress 1 = some (.done true) ∧ s.progress 2 = some (.done true) ∧
      Line.FoundMeanwhile n.clock.interval trialMoves 2 ∧
      Line.NeverAsks n.clock.interval trialMoves 2 ∧
      s.progress 3 = some (.done false) ∧ Line.NeverAsks n.clock.interval trialMoves 3 := by
  intro n
  have ordered : (Line.instants trialMoves).Pairwise (· ≤ ·) := by decide
  obtain ⟨s, ran, told⟩ := Option.map_eq_some_iff.1 (show
    (Line.run n.clock.interval .start trialMoves).map (fun s => (s.progress 1, s.progress 2))
      = some (some (.done true), some (.done true)) by decide +kernel)
  obtain ⟨first, second⟩ := Prod.mk.inj told
  obtain ⟨-, told, quiet, tooSoon, -⟩ := n.resync_coalesces ran ordered
  have meanwhile : Line.FoundMeanwhile n.clock.interval trialMoves 2 := by
    obtain own | meanwhile := (told 2 true second).1 rfl
    · simp [trialMoves] at own
    · exact meanwhile
  obtain ⟨u, ranBefore, lastFound⟩ := Option.map_eq_some_iff.1 (show
    (Line.run n.clock.interval .start (trialMoves.take 11)).map (·.turns.lastFound)
      = some (some 20) by decide +kernel)
  obtain ⟨third, silent⟩ := tooSoon 3 (trialMoves.take 11) (trialMoves.drop 12) u 25 20 30 rfl
    ranBefore (by decide) lastFound (by decide) (by decide +kernel)
  exact ⟨s, ran, ordered, first, second, meanwhile, quiet 2 meanwhile, third, silent⟩

end Network
end OnionSwarm

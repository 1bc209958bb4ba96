/-
The network time that the client works out from what a few nodes say.

All nodes are asked at once, and the time counts for the moment at which the last answer is in.  If
only a minority is wrong, the time is as good as half a round trip of an honest node, whatever the
others say; this is `middle_near`, carried over to the client.

It is true of the numbers.  In 64 bits a node may claim a time so late that what is added to it does
not fit, or that it does not fit with a sign, and nothing in the client keeps it from counting.  What
keeps the time in order is only that no node claims such a time: a client that is far from the end
stays so with every turn in which all answers are (`early_resyncSince`).
-/
import OnionSwarm.Proofs.Client.Stamps
import OnionSwarm.Proofs.Clock.Exact
import OnionSwarm.Proofs.Clock.Middle

namespace OnionSwarm

open Clock

variable {ω : Type}

namespace ClockSource

variable {source : ClockSource ω} {c c₁ : Client ω} {pool : List Node}

/-! ### What the client asks for, and what it reads -/

theorem sample_of_ensured (ensured : source.pool.ensure c = (.ok pool, c₁)) :
    (source.sample c).1
      = if patience < ((source.poll pool c₁).1.map (·.2.timer)).foldl max 0 then none
        else estimate? (answers (source.poll pool c₁).1) := by
  split
  · rename_i late
    rw [poll, Act.bind_apply] at late
    unfold sample
    rw [Act.bind_apply, ensured]
    dsimp only
    rw [Act.bind_apply, Act.bind_apply, if_pos late]
    rfl
  · rename_i soon
    exact sample_of_poll ensured rfl (Nat.le_of_not_lt soon)

theorem estimate?_of_sample (ensured : source.pool.ensure c = (.ok pool, c₁)) {time : Nat}
    (sampled : (source.sample c).1 = some time) :
    estimate? (answers (source.poll pool c₁).1) = some time := by
  rw [sample_of_ensured ensured] at sampled
  split at sampled
  · cases sampled
  · exact sampled

theorem le_foldl_max (start : Nat) (delays : List Nat) :
    start ≤ delays.foldl max start ∧ ∀ d ∈ delays, d ≤ delays.foldl max start := by
  induction delays generalizing start with
  | nil => exact ⟨Nat.le_refl _, nofun⟩
  | cons d rest ih =>
    obtain ⟨above, each⟩ := ih (max start d)
    refine ⟨Nat.le_trans (Nat.le_max_left _ _) above, fun x mem => ?_⟩
    rcases List.mem_cons.1 mem with rfl | later
    · exact Nat.le_trans (Nat.le_max_right _ _) above
    · exact each x later

/-- No round trip is longer than the longest. -/
theorem roundTrip_le_age {replies : List (Except ApiFailure OnionReply × Delay)} {a : Answer}
    (mem : a ∈ answers replies) : a.roundTrip ≤ a.age := by
  obtain ⟨r, asked, made⟩ := List.mem_filterMap.1 mem
  obtain ⟨time, -, rfl⟩ := Option.map_eq_some_iff.1 made
  exact (le_foldl_max 0 _).2 _ (List.mem_map_of_mem asked)

theorem now_of_reading {timer : Timer ω} {r : Reading} (known : c.reading = some r) :
    (now timer c).1 = r.timeAt (timer.instant c.outside).1 := by
  unfold now
  rw [Act.bind_apply, Act.get_apply, known]
  rfl

theorem offset_of_reading {timer : Timer ω} {r : Reading} (known : c.reading = some r) :
    (offset timer c).1 = some (r.offset (timer.instant c.outside).1
      (timer.system (timer.instant c.outside).2).1) := by
  unfold offset
  rw [Act.bind_apply, Act.get_apply, known]
  rfl

/-! ### How good the time is -/

/-- **A minority of wrong answers cannot move the time.**  Let `now` be the network time when all
answers are in, and let fewer than half of the answers be dishonest, whatever they say.  Then the
middle one of the times that the answers stand for is off by no more than the largest half round
trip, rounded up, of the honest answers.  The same is true of the estimate in 64 bits, and so of the
time that the client works out from such answers, if the sums of the honest answers fit. -/
theorem sample_near (source : ClockSource ω) {found : List Answer} {now : Nat} (any : found ≠ [])
    (few : liars now found ≤ (found.length - 1) / 2) :
    (∃ time, middle? (found.map Answer.sum) = some time ∧
      ((time : Int) - now).natAbs ≤ slack now found) ∧
    ((∀ a ∈ found, a.Honest now → a.sum < wordEnd) →
      ∃ time, estimate? found = some time ∧ ((time : Int) - now).natAbs ≤ slack now found ∧
        ∀ (c c₁ : Client ω) (pool : List Node), source.pool.ensure c = (.ok pool, c₁) →
          answers (source.poll pool c₁).1 = found →
          ((source.poll pool c₁).1.map (·.2.timer)).foldl max 0 ≤ patience →
          (source.sample c).1 = some time) := by
  constructor
  · obtain ⟨time, middle, low, high⟩ := middle_near any few fun a _ _ => Eq.refl a.sum
    exact ⟨time, middle, by omega⟩
  · intro fit
    obtain ⟨time, middle, low, high⟩ := middle_near any few fun a mem honest =>
      Answer.candidate_eq_sum_iff.2 (fit a mem honest)
    refine ⟨time, middle, by omega, ?_⟩
    rintro c c₁ pool ensured rfl soon
    rw [sample_of_poll ensured rfl soon, estimate?, middle]

end ClockSource

namespace Clock

/-- Asks nodes that answer with these times, each after so many milliseconds.  What is outside is the
instant, and the system's time is always the same. -/
def trialSource (told : List (Nat × Nat)) : ClockSource Nat where
  pool := ⟨[], 1, fun _ _ w => (.error ⟨"no seed"⟩, w)⟩
  ask m _ :=
    let (time, delay) := told[m.port]?.getD (0, 0)
    let body := (Json.ofMembers [("timestamp", .nat time)]).toBytes
    pure (.ok ⟨200, .null, some body⟩, ⟨delay, delay⟩)
  timer := ⟨fun w => (w, w), fun w => (1000000000000, w), fun delay w => ((), w + delay * tick)⟩
  interval := 0

/-- A client that knows these nodes. -/
def trialSampler (nodes : List Node) : Client Nat :=
  { Client.start .empty .zero 0 with store := (Store.fresh .empty).setPool nodes }

theorem ensure_trialSampler (told : List (Nat × Nat)) (m : Node) (rest : List Node) :
    (trialSource told).pool.ensure (trialSampler (m :: rest))
      = (.ok (m :: rest), { trialSampler (m :: rest) with
          store := (trialSampler (m :: rest)).store.notePool }) := by
  have large : (trialSource told).pool.minPool
      ≤ (trialSampler (m :: rest)).store.viewPool.length := Nat.succ_le_succ (Nat.zero_le _)
  rw [SeedSource.ensure_eq, if_pos large]
  rfl

/-- Three answers to a question that was asked at 9600, seen from 10000.  The last one is a lie, of a
time far ahead whose sum just fits. -/
def trialAnswers : List Answer := [⟨9650, 100, 400⟩, ⟨9601, 301, 400⟩, ⟨wordEnd - 201, 400, 400⟩]

theorem sample_near_trialSource :
    let source := trialSource [(9650, 100), (9601, 301), (wordEnd - 201, 400)]
    let c := trialSampler [Onion.trialNode 0, Onion.trialNode 1, Onion.trialNode 2]
    trialAnswers ≠ [] ∧ liars 10000 trialAnswers ≤ (trialAnswers.length - 1) / 2 ∧
      (∀ a ∈ trialAnswers, a.Honest 10000 → a.sum < wordEnd) ∧
      ∃ time, (source.sample c).1 = some time ∧ ((time : Int) - 10000).natAbs ≤ 151 := by
  intro source c
  have any : trialAnswers ≠ [] := by decide
  have few : liars 10000 trialAnswers ≤ (trialAnswers.length - 1) / 2 := by decide
  have fit : ∀ a ∈ trialAnswers, a.Honest 10000 → a.sum < wordEnd := by decide
  have worst : slack 10000 trialAnswers = 151 := by decide
  have ensured := ensure_trialSampler [(9650, 100), (9601, 301), (wordEnd - 201, 400)]
    (Onion.trialNode 0) [Onion.trialNode 1, Onion.trialNode 2]
  obtain ⟨told, soon⟩ : ClockSource.answers
        (source.poll c.store.viewPool { c with store := c.store.notePool }).1 = trialAnswers ∧
      ((source.poll c.store.viewPool { c with store := c.store.notePool }).1.map
        (·.2.timer)).foldl max 0 ≤ patience := by
    decide +kernel
  obtain ⟨-, exact64⟩ := source.sample_near any few
  obtain ⟨time, -, near, sampled⟩ := exact64 fit
  rw [worst] at near
  exact ⟨any, few, fit, time, sampled _ _ _ ensured told soon, near⟩

end Clock

/-! ### When the time does not fit -/

/-- The time that the client has found, if any, is far from what does not fit with a sign. -/
def Client.Early (c : Client ω) : Prop := ∀ r, c.reading = some r → r.time + year < wordEnd / 2

namespace ClockSource

/-- The answers to a poll come nowhere near the end. -/
def PollsEarly (source : ClockSource ω) (c : Client ω) : Prop :=
  ∀ pool c₁, source.pool.ensure c = (.ok pool, c₁) → ∀ a ∈ answers (source.poll pool c₁).1,
    a.age < year ∧ a.reported + 2 * year < wordEnd / 2

theorem sample_of_early {source : ClockSource ω} {c : Client ω} (early : source.PollsEarly c)
    {time : Nat} (sampled : (source.sample c).1 = some time) : time + year < wordEnd / 2 := by
  cases ensured : source.pool.ensure c with
  | mk pool c₁ =>
    cases pool with
    | error e =>
      unfold sample at sampled
      rw [Act.bind_apply, ensured] at sampled
      cases sampled
    | ok pool =>
      exact (estimate?_of_early (early pool c₁ ensured)).2 time
        (estimate?_of_sample ensured sampled)

/-- A turn with such answers, or without any, leaves the time far from the end. -/
theorem early_resyncSince {source : ClockSource ω}
    (asking : ∀ m call, Act.Errands False (source.ask m call)) {c : Client ω} {requested : Nat}
    (before : c.Early) (early : source.PollsEarly (source.looked c)) :
    (source.resyncSince requested c).2.Early := by
  rw [resyncSince_eq]
  cases verdict source.interval c.lastSync requested (source.timer.instant c.outside).1 with
  | found => exact before
  | tooSoon => exact before
  | ask =>
    have kept := (errands_sample asking).keeps_affairs (source.looked c)
    cases sampled : source.sample (source.looked c) with
    | mk time c' =>
      rw [sampled] at kept
      cases time with
      | none =>
        have same : c'.reading = c.reading := congrArg (·.2.1) kept
        intro r known
        exact before r (same.symm.trans known)
      | some time =>
        intro r known
        obtain rfl := Option.some.inj known
        exact sample_of_early early (congrArg Prod.fst sampled)

/-- **When the time leaves 64 bits.**  Nodes may report any time, and nothing that is added takes a
year.

* The sum of an answer does not fit exactly if the node reports one of the last times, so many of
  them as the answer is older than half of its round trip.
* The time that the client reads off is wrong exactly if what has passed takes it beyond the end,
  and then it lies in the first year of all.
* Converted to a number with a sign it is wrong from the middle on; its difference to the system's
  time leaves the range exactly if the time is at most the system's time beyond the middle, and
  comes out wrong exactly if it is more.
* As long as all answers stay two years below the middle, the estimate is exact, and so are, for a
  year, the time that is read off and the difference.

Where overflow is checked, nothing starts over: the work is broken off exactly where the sum of an
answer, the sum for the time that is read off, or the difference is said here not to fit. -/
theorem time_wraps_iff (source : ClockSource ω)
    (asking : ∀ m call, Act.Errands False (source.ask m call)) :
    (∀ replies, ∀ a ∈ answers replies, a.age < year →
      (a.candidate ≠ a.sum ↔ wordEnd ≤ a.reported + (a.age - a.roundTrip / 2))) ∧
    (∀ (c : Client ω) (r : Reading), c.reading = some r → r.time < wordEnd →
      let instant := source.timer.instant c.outside
      let system := (source.timer.system instant.2).1
      let time := (now source.timer c).1
      (instant.1 - r.instant) / tick < year → system < wordEnd / 2 →
        (time ≠ r.sum instant.1 ↔ wordEnd ≤ r.sum instant.1) ∧
        (wordEnd ≤ r.sum instant.1 → time < year) ∧
        (signed time = time ↔ time < wordEnd / 2) ∧
        (Fits (signed time - signed system) ↔
          time < wordEnd / 2 ∨ wordEnd / 2 + system ≤ time) ∧
        ∃ ahead, (offset source.timer c).1 = some ahead ∧
          (ahead = time - system ↔ time < wordEnd / 2 + system)) ∧
    (∀ (c : Client ω) (requested : Nat), c.Early → source.PollsEarly (source.looked c) →
      (source.resyncSince requested c).2.Early) ∧
    (∀ (c c₁ : Client ω) (pool : List Node), source.PollsEarly c →
      source.pool.ensure c = (.ok pool, c₁) → ∀ time, (source.sample c).1 = some time →
        middle? ((answers (source.poll pool c₁).1).map Answer.sum) = some time) ∧
    ∀ (c : Client ω) (r : Reading), c.Early → c.reading = some r →
      let instant := source.timer.instant c.outside
      let system := (source.timer.system instant.2).1
      let passed := (instant.1 - r.instant) / tick
      passed < year → system < wordEnd / 2 →
        (now source.timer c).1 = r.time + passed ∧
        (offset source.timer c).1 = some (((r.time + passed : Nat) : Int) - system) := by
  refine ⟨?_, ?_, ?_, ?_, ?_⟩
  · intro replies a mem recent
    rw [ne_eq, Answer.candidate_eq_sum_iff, Nat.not_lt]
    exact Answer.wordEnd_le_sum_iff (roundTrip_le_age mem) recent
  · intro c r known word instant system time recent early
    have read : time = r.timeAt instant.1 := now_of_reading known
    rw [read]
    refine ⟨?_, ?_, ?_, ?_, ?_⟩
    · rw [ne_eq, Reading.timeAt_eq_sum_iff, Nat.not_lt]
    · exact Reading.timeAt_lt_year word recent
    · rw [signed_eq_self_iff]
      unfold Fits
      omega
    · exact Reading.fits_difference_iff early
    · exact ⟨_, offset_of_reading known, Reading.offset_eq_iff early⟩
  · intro c requested before early
    exact early_resyncSince asking before early
  · intro c c₁ pool early ensured time sampled
    rw [← (estimate?_of_early (early pool c₁ ensured)).1]
    exact estimate?_of_sample ensured sampled
  · intro c r early known instant system passed recent small
    obtain ⟨same, low⟩ := Reading.exact_of_early (early r known) recent
    have exact64 : r.offset instant.1 system = (r.timeAt instant.1 : Int) - system :=
      (Reading.offset_eq_iff small).2 (by omega)
    rw [now_of_reading known, offset_of_reading known, exact64, same]
    exact ⟨rfl, rfl⟩

end ClockSource

namespace Clock

/-- A client that has found the time, from one node that answers at once. -/
def trialFound (time : Nat) : Client Nat :=
  ((trialSource [(time, 0)]).resync (trialSampler [Onion.trialNode 0])).2

theorem time_wraps_trialSource :
    let source := trialSource [(5000, 100)]
    let c := trialSampler [Onion.trialNode 0]
    let late := { trialFound (wordEnd - 1) with outside := tick }
    Answer.candidate ⟨5000, 100, 100⟩ = Answer.sum ⟨5000, 100, 100⟩ ∧
      (ClockSource.now source.timer late).1 ≠ Reading.sum ⟨0, wordEnd - 1⟩ tick ∧
      c.Early ∧ source.PollsEarly c ∧ middle? [Answer.sum ⟨5000, 100, 100⟩] = some 5050 ∧
      (ClockSource.now source.timer (source.resyncSince 0 c).2).1 = 5050 ∧
      (ClockSource.offset source.timer (source.resyncSince 0 c).2).1
        = some (5050 - 1000000000000) := by
  intro source c late
  have asking : ∀ m call, Act.Errands False (source.ask m call) := fun _ _ => .pure _
  obtain ⟨sums, reads, stays, sampled, exact64⟩ := source.time_wraps_iff asking
  have ensured := ensure_trialSampler [(5000, 100)] (Onion.trialNode 0) []
  have told : ClockSource.answers (source.poll [Onion.trialNode 0] { c with
      store := c.store.notePool }).1 = [⟨5000, 100, 100⟩] := by decide +kernel
  have start : c.Early := nofun
  have early : source.PollsEarly c := by
    intro pool c₁ found
    obtain ⟨same, rfl⟩ := Prod.mk.inj (ensured.symm.trans found)
    obtain rfl := Except.ok.inj same
    rw [told]
    decide
  -- an answer that is far from the end, and a reading that is a millisecond from it
  have small : Answer.candidate ⟨5000, 100, 100⟩ = Answer.sum ⟨5000, 100, 100⟩ := by
    by_contra wrong
    have mem : ⟨5000, 100, 100⟩ ∈ ClockSource.answers _ := told ▸ List.mem_singleton_self _
    exact absurd ((sums _ _ mem (by decide)).1 wrong) (by decide)
  have wraps : (ClockSource.now source.timer late).1 ≠ Reading.sum ⟨0, wordEnd - 1⟩ tick :=
    (reads late ⟨0, wordEnd - 1⟩ (by decide +kernel) (by decide) (by decide) (by decide)).1.2
      (by decide)
  have middle := sampled c _ _ early ensured 5050 (by decide +kernel)
  rw [told] at middle
  obtain ⟨time, offset⟩ := exact64 _ ⟨100 * tick, 5050⟩ (stays c 0 start early)
    (by decide +kernel) (by decide +kernel) (by decide)
  have passed : ((source.resyncSince 0 c).2.outside - 100 * tick) / tick = 0 := by decide +kernel
  exact ⟨small, wraps, start, early, middle, time.trans (congrArg (5050 + ·) passed),
    offset.trans (congrArg (fun p => some (((5050 + p : Nat) : Int) - 1000000000000)) passed)⟩

/-- Times that a node may report, and where they lead: to a sum that starts over, to a time that
starts over a millisecond after it was found, to a difference that leaves the range, and to one that
says that the network is behind, though it is far ahead.  Where overflow is checked, all but the last
break the work off. -/
theorem late_timestamp_wraps :
    (Answer.sum ⟨wordEnd - 1, 2, 2⟩ = wordEnd ∧
      ((trialSource [(wordEnd - 1, 2)]).sample (trialSampler [Onion.trialNode 0])).1 = some 0) ∧
    ((trialFound (wordEnd - 1)).reading = some ⟨0, wordEnd - 1⟩ ∧
      (ClockSource.now (trialSource []).timer { trialFound (wordEnd - 1) with outside := tick }).1
        = 0) ∧
    ((trialFound (wordEnd / 2)).reading = some ⟨0, wordEnd / 2⟩ ∧
      ¬ Fits (signed (wordEnd / 2) - signed 1000000000000)) ∧
    (trialFound (wordEnd - 1000)).reading = some ⟨0, wordEnd - 1000⟩ ∧
      (ClockSource.offset (trialSource []).timer (trialFound (wordEnd - 1000))).1
        = some (-1000 - 1000000000000) := by
  decide +kernel

end Clock
end OnionSwarm

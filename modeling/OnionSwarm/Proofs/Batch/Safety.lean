/-
No request is lost in a batch, none is sent twice, and none is sent late.

A request that was received is in one of three places.  It waits, or it was handed over, or its
caller gave it up while it waited; and it is never in two of them.  `Sound` says so of a run, and
says of each batch that waits where it comes from.  Every event keeps it: a request that comes is
new, so it is nowhere yet; one that leaves is gone from the only batch that held it; and batches that
are handed over move their requests from the first place to the second.
-/
import Mathlib.Tactic.Common
import Mathlib.Data.List.Induction
import Mathlib.Data.List.Nodup
import OnionSwarm.Proofs.Batch.Runs

namespace OnionSwarm.Batch.Waiting

variable {Request : Type} {window : Nat} {events : List (Nat × Event Request)}

/-! ### What holds of every run -/

/-- Where the batches and the requests of a run have got to. -/
structure Sound (window : Nat) (events : List (Nat × Event Request)) : Prop where
  /-- Each batch that waits was opened by a request for its key. -/
  opened : ∀ key batch, (run window events).2.get? key = some batch →
    OpenedBy window events key batch
  /-- What was handed over was received with its key. -/
  received : ∀ b ∈ (run window events).1, ∀ m ∈ b.members, m ∈ sends b.key events
  /-- Nothing was handed over twice. -/
  once : (handedIds (run window events).1).Nodup
  /-- What waits was not handed over. -/
  apart : ∀ key m, Waits (run window events).2 key m → m.id ∉ handedIds (run window events).1
  /-- What was received is in one of the three places. -/
  placed : ∀ key m, m ∈ sends key events →
    Waits (run window events).2 key m ∨
    (∃ b ∈ (run window events).1, b.key = key ∧ m ∈ b.members) ∨
    Cancelled window events key m.id
  /-- What was given up is in no other place. -/
  gone : ∀ key id, Cancelled window events key id →
    id ∈ sentIds events ∧ id ∉ handedIds (run window events).1 ∧
    ∀ k m, Waits (run window events).2 k m → m.id ≠ id

theorem OpenedBy.nonempty {key : String} {batch : Pending Request}
    (opened : OpenedBy window events key batch) : batch.members ≠ [] := by
  obtain ⟨_, _, _, _, _, _, _, _, _, nonempty, _⟩ := opened
  exact nonempty

theorem OpenedBy.members_sublist {key : String} {batch : Pending Request}
    (opened : OpenedBy window events key batch) : batch.members.Sublist (sends key events) := by
  obtain ⟨before, t, id, request, after, form, -, -, -, -, order⟩ := opened
  refine order.trans ?_
  rw [form]
  exact (List.sublist_append_right before _).filterMap _

/-- What waits was received with its key. -/
theorem Sound.waits_sends (s : Sound window events) {key : String} {m : Member Request}
    (waits : Waits (run window events).2 key m) : m ∈ sends key events := by
  obtain ⟨batch, found, mem⟩ := waits
  exact (s.opened key batch found).members_sublist.subset mem

/-- What was handed over was received. -/
theorem Sound.handed_sentIds (s : Sound window events) {id : Nat}
    (handed : id ∈ handedIds (run window events).1) : id ∈ sentIds events := by
  obtain ⟨b, mem, m, inside, rfl⟩ := mem_handedIds_iff.1 handed
  exact id_mem_sentIds (s.received b mem m inside)

theorem sound_nil : Sound window ([] : List (Nat × Event Request)) := by
  have nothing : ∀ key (m : Member Request), ¬ Waits (run window []).2 key m := by
    rintro key m ⟨batch, found, -⟩
    cases found
  have never : ∀ key id, ¬ Cancelled window ([] : List (Nat × Event Request)) key id := by
    rintro key id ⟨before, t, after, form, -⟩
    cases (List.append_eq_nil_iff.1 form.symm).2
  refine ⟨?_, ?_, List.nodup_nil, ?_, ?_, ?_⟩
  · intro key batch found
    cases found
  · intro b mem
    cases mem
  · intro key m waits
    exact (nothing key m waits).elim
  · intro key m mem
    cases mem
  · intro key id cancelled
    exact (never key id cancelled).elim

/-! ### One event more -/

theorem Sound.send (s : Sound window events) {t id : Nat} {key : String} {request : Request}
    (fresh : id ∉ sentIds events) :
    Sound window (events ++ [(t, .send id key request)]) := by
  have next : run window (events ++ [(t, .send id key request)])
      = ((run window events).1, (run window events).2.join window t key ⟨id, request⟩) := by
    rw [run_append_singleton, step, List.append_nil]
  have sent : ∀ k, sentBy k (t, .send id key request)
      = if key = k then some ⟨id, request⟩ else none := fun k => rfl
  have same : ∀ k n, Cancelled window (events ++ [(t, .send id key request)]) k n ↔
      Cancelled window events k n :=
    fun k n => cancelled_append_of_ne fun _ _ _ isCancel => by cases isCancel
  refine ⟨?_, ?_, ?_, ?_, ?_, ?_⟩
  · intro k batch found
    have view := found
    rw [next, get?_join] at view
    -- the request joins the batch of its key, or opens one; no other batch is touched
    by_cases own : k = key
    · subst own
      rw [if_pos rfl] at view
      obtain rfl := Option.some.inj view
      cases before : (run window events).2.get? k with
      | none =>
        rw [before] at found
        exact openedBy_send before found
      | some was =>
        rw [before] at found
        refine (s.opened k was before).extend found rfl (by simp [joined]) ?_
        rw [sent, if_pos rfl]
        exact List.Sublist.refl _
    · rw [if_neg own] at view
      have was := s.opened k batch view
      exact was.extend found rfl was.nonempty (List.sublist_append_left _ _)
  · intro b mem m inside
    rw [next] at mem
    rw [sends_append_singleton]
    exact List.mem_append_left _ (s.received b mem m inside)
  · rw [next]
    exact s.once
  · intro k m waits
    rw [next] at waits ⊢
    rcases waits_join_iff.1 waits with waits | ⟨-, rfl⟩
    · exact s.apart k m waits
    · exact fun handed => fresh (s.handed_sentIds handed)
  · intro k m mem
    rw [next, same]
    rw [sends_append_singleton] at mem
    -- an old request is where it was, and the new one waits
    rcases List.mem_append.1 mem with mem | new
    · rcases s.placed k m mem with waits | elsewhere
      · exact .inl (waits_join_iff.2 (.inl waits))
      · exact .inr elsewhere
    · left
      rw [sent] at new
      split at new
      · rename_i own
        have isNew : m = ⟨id, request⟩ := by simpa using new
        exact waits_join_iff.2 (.inr ⟨own.symm, isNew⟩)
      · simp at new
  · intro k n cancelled
    obtain ⟨received, notHanded, notWaiting⟩ := s.gone k n ((same k n).1 cancelled)
    rw [next]
    refine ⟨?_, notHanded, ?_⟩
    · rw [sentIds_append_singleton]
      exact List.mem_append_left _ received
    · intro k' m waits
      rcases waits_join_iff.1 waits with waits | ⟨-, rfl⟩
      · exact notWaiting k' m waits
      · rintro rfl
        exact fresh received

theorem Sound.cancel (s : Sound window events) (fresh : (sentIds events).Nodup) (t id : Nat)
    (key : String) : Sound window (events ++ [(t, .cancel id key)]) := by
  have next : run window (events ++ [(t, .cancel id key)])
      = ((run window events).1, (run window events).2.leave key id) := by
    rw [run_append_singleton, step, List.append_nil]
  have same : ∀ k, sends k (events ++ [(t, .cancel id key)]) = sends k events :=
    fun k => (sends_of_quiet rfl k).1
  have sameIds : sentIds (events ++ [(t, .cancel id key)]) = sentIds events :=
    (sends_of_quiet rfl key).2
  refine ⟨?_, ?_, ?_, ?_, ?_, ?_⟩
  · intro k batch found
    have view := found
    rw [next, get?_leave] at view
    by_cases own : k = key
    · rw [if_pos own] at view
      obtain ⟨was, before, left⟩ := Option.bind_eq_some_iff.1 view
      obtain ⟨deadline, nonempty, members⟩ := without_eq_some_iff.1 left
      refine (s.opened k was (own ▸ before)).extend found deadline nonempty ?_
      rw [members]
      exact List.filter_sublist.trans (List.sublist_append_left _ _)
    · rw [if_neg own] at view
      have was := s.opened k batch view
      exact was.extend found rfl was.nonempty (List.sublist_append_left _ _)
  · intro b mem m inside
    rw [next] at mem
    rw [same]
    exact s.received b mem m inside
  · rw [next]
    exact s.once
  · intro k m waits
    rw [next] at waits ⊢
    exact s.apart k m (waits_leave_iff.1 waits).1
  · intro k m mem
    rw [same] at mem
    rw [next, cancelled_append_singleton_iff]
    rcases s.placed k m mem with waits | handed | cancelled
    · by_cases leaves : k = key ∧ m.id = id
      · obtain ⟨rfl, rfl⟩ := leaves
        exact .inr (.inr (.inr ⟨⟨t, rfl⟩, m, rfl, waits⟩))
      · exact .inl (waits_leave_iff.2 ⟨waits, leaves⟩)
    · exact .inr (.inl handed)
    · exact .inr (.inr (.inl cancelled))
  · intro k n cancelled
    rw [next, sameIds]
    rcases cancelled_append_singleton_iff.1 cancelled with before | ⟨⟨_, now⟩, m, rfl, waits⟩
    · obtain ⟨received, notHanded, notWaiting⟩ := s.gone k n before
      refine ⟨received, notHanded, fun k' m' waits => ?_⟩
      exact notWaiting k' m' (waits_leave_iff.1 waits).1
    · obtain ⟨rfl, rfl, rfl⟩ : t = _ ∧ id = m.id ∧ key = k := by simpa using now
      have received := s.waits_sends waits
      refine ⟨id_mem_sentIds received, s.apart key m waits, ?_⟩
      intro k' m' waits' sameId
      obtain ⟨still, stays⟩ := waits_leave_iff.1 waits'
      -- the number tells the key, so the one that is left would have to be in the same batch
      obtain ⟨sameKey, -⟩ := sends_unique fresh (s.waits_sends still) received sameId
      exact stays ⟨sameKey, sameId⟩

/-- The numbers of what is handed over at once are all different. -/
theorem Sound.nodup_handed (s : Sound window events) (fresh : (sentIds events).Nodup)
    {due : Pending Request → Bool} {handed : List (Handed Request)} {left : Waiting Request}
    (h : HandsOver due (run window events).2 handed left) : (handedIds handed).Nodup := by
  have sent : ∀ b ∈ handed, b.members.Sublist (sends b.key events) := by
    intro b mem
    obtain ⟨batch, found, -, same⟩ := (h.mem_iff b).1 mem
    rw [← same]
    exact (s.opened b.key batch found).members_sublist
  refine List.nodup_flatMap.2 ⟨?_, ?_⟩
  · intro b mem
    exact (nodup_sends fresh b.key).sublist ((sent b mem).map Member.id)
  · have keys : handed.Pairwise fun b b' => b.key ≠ b'.key := List.pairwise_map.1 h.once
    refine keys.imp_of_mem fun {b b'} mem mem' differ => ?_
    intro id inside inside'
    obtain ⟨m, isIn, rfl⟩ := List.mem_map.1 inside
    obtain ⟨m', isIn', same⟩ := List.mem_map.1 inside'
    have one := sends_unique fresh ((sent b mem).subset isIn) ((sent b' mem').subset isIn') same.symm
    exact differ one.1

/-- The timer and the end: batches that are due go from those that wait to those handed over. -/
theorem Sound.handsOver (s : Sound window events) (fresh : (sentIds events).Nodup)
    {e : Nat × Event Request} {due : Pending Request → Bool} (quiet : idOf e = none)
    (noCancel : ∀ t id key, e ≠ (t, .cancel id key))
    (h : HandsOver due (run window events).2 ((run window events).2.step window e.1 e.2).1
      ((run window events).2.step window e.1 e.2).2) :
    Sound window (events ++ [e]) := by
  have same : ∀ k, sends k (events ++ [e]) = sends k events := fun k => (sends_of_quiet quiet k).1
  have sameIds : sentIds (events ++ [e]) = sentIds events := (sends_of_quiet quiet "").2
  have next := run_append_singleton window events e
  -- what is handed over now comes behind all that was handed over before
  have ids : handedIds (run window (events ++ [e])).1 = handedIds (run window events).1
      ++ handedIds ((run window events).2.step window e.1 e.2).1 := by
    rw [next, handedIds_append]
  refine ⟨?_, ?_, ?_, ?_, ?_, ?_⟩
  · intro k batch found
    have view := found
    rw [next] at view
    rw [h.left, Option.filter_eq_some_iff] at view
    have was := s.opened k batch view.1
    exact was.extend found rfl was.nonempty (List.sublist_append_left _ _)
  · intro b mem m inside
    rw [next] at mem
    rw [same]
    rcases List.mem_append.1 mem with before | now
    · exact s.received b before m inside
    · exact s.waits_sends (h.waits_iff.2 (.inr ⟨b, now, rfl, inside⟩))
  · rw [ids]
    -- what is handed over now was waiting, and what was waiting had not been handed over
    refine List.nodup_append'.2 ⟨s.once, s.nodup_handed fresh h, ?_⟩
    intro n before now
    obtain ⟨k, m, rfl, waits⟩ := h.waited now
    exact s.apart k m waits before
  · intro k m waits
    rw [next] at waits
    have still := h.waits_iff.2 (.inl waits)
    rw [ids, List.mem_append]
    rintro (before | now)
    · exact s.apart k m still before
    · obtain ⟨b, isIn, m', inside, sameId⟩ := mem_handedIds_iff.1 now
      have was := h.waits_iff.2 (.inr ⟨b, isIn, rfl, inside⟩)
      obtain ⟨rfl, -⟩ := sends_unique fresh (s.waits_sends was) (s.waits_sends still) sameId
      exact h.not_waits isIn m waits
  · intro k m mem
    rw [same] at mem
    rw [cancelled_append_of_ne noCancel, next]
    -- a request that waited goes on waiting or is in one of the batches; the others stay
    rcases s.placed k m mem with waits | ⟨b, before, rest⟩ | cancelled
    · rcases h.waits_iff.1 waits with on | ⟨b, now, rest⟩
      · exact .inl on
      · exact .inr (.inl ⟨b, List.mem_append_right _ now, rest⟩)
    · exact .inr (.inl ⟨b, List.mem_append_left _ before, rest⟩)
    · exact .inr (.inr cancelled)
  · intro k n cancelled
    obtain ⟨received, notHanded, notWaiting⟩ :=
      s.gone k n ((cancelled_append_of_ne noCancel).1 cancelled)
    refine ⟨by rw [sameIds]; exact received, ?_, ?_⟩
    · rw [ids, List.mem_append]
      rintro (before | now)
      · exact notHanded before
      · obtain ⟨k', m, sameId, waits⟩ := h.waited now
        exact notWaiting k' m waits sameId
    · intro k' m waits
      rw [next] at waits
      exact notWaiting k' m (h.waits_iff.2 (.inl waits))

/-- **Every run is sound.**  The induction is on the run from its last event back. -/
theorem sound (fresh : (sentIds events).Nodup) : Sound window events := by
  induction events using List.reverseRecOn with
  | nil => exact sound_nil
  | append_singleton events e ih =>
    rw [sentIds_append_singleton] at fresh
    have s := ih (fresh.sublist (List.sublist_append_left _ _))
    have fresh' := fresh.sublist (List.sublist_append_left _ _)
    obtain ⟨t, event⟩ := e
    cases event with
    | send id key request =>
      refine s.send fun received => ?_
      exact (List.nodup_append'.1 fresh).2.2 received (by simp [idOf])
    | cancel id key => exact s.cancel fresh' t id key
    | timer =>
      refine s.handsOver fresh' rfl ?_ (handsOver_timer window t _)
      intro _ _ _ isCancel
      cases isCancel
    | close =>
      refine s.handsOver fresh' rfl ?_ (handsOver_close window t _)
      intro _ _ _ isCancel
      cases isCancel

/-! ### What was handed over -/

/-- A batch is handed over with some of the requests that were received for its key, in the order of
their coming. -/
theorem handed_spec (fresh : (sentIds events).Nodup) {b : Handed Request}
    (mem : b ∈ (run window events).1) :
    b.members ≠ [] ∧ b.members.Sublist (sends b.key events) := by
  induction events using List.reverseRecOn with
  | nil => cases mem
  | append_singleton events e ih =>
    rw [sentIds_append_singleton] at fresh
    have fresh' := fresh.sublist (List.sublist_append_left _ _)
    have s : Sound window events := sound fresh'
    rw [sends_append_singleton]
    rw [run_append_singleton] at mem
    rcases List.mem_append.1 mem with before | now
    · obtain ⟨nonempty, order⟩ := ih fresh' before
      exact ⟨nonempty, order.trans (List.sublist_append_left _ _)⟩
    -- only the timer and the end hand anything over, and only what was waiting
    · have waited : ∃ batch, (run window events).2.get? b.key = some batch ∧
          batch.members = b.members := by
        obtain ⟨t, event⟩ := e
        cases event with
        | send id key request => cases now
        | cancel id key => cases now
        | timer =>
          obtain ⟨batch, found, -, same⟩ := ((handsOver_timer window t _).mem_iff b).1 now
          exact ⟨batch, found, same⟩
        | close =>
          obtain ⟨batch, found, -, same⟩ := ((handsOver_close window t _).mem_iff b).1 now
          exact ⟨batch, found, same⟩
      obtain ⟨batch, found, same⟩ := waited
      have opened := s.opened b.key batch found
      rw [← same]
      exact ⟨opened.nonempty, opened.members_sublist.trans (List.sublist_append_left _ _)⟩

/-- After the end every request that was received is in a batch of its key, unless it was given
up. -/
theorem exists_handed (fresh : (sentIds events).Nodup) (now : Nat) {key : String}
    {m : Member Request} (received : m ∈ sends key events)
    (stayed : ¬ Cancelled window events key m.id) :
    ∃ b ∈ (run window (events ++ [(now, .close)])).1, b.key = key ∧ m ∈ b.members := by
  have ended : Sound window (events ++ [(now, .close)]) := by
    refine sound ?_
    rw [(sends_of_quiet rfl key).2]
    exact fresh
  rcases ended.placed key m (by rw [(sends_of_quiet rfl key).1]; exact received) with
    ⟨batch, found, -⟩ | handed | cancelled
  · rw [run_append_singleton] at found
    cases found
  · exact handed
  · rcases cancelled_append_singleton_iff.1 cancelled with cancelled | ⟨⟨t, isCancel⟩, -⟩
    · exact (stayed cancelled).elim
    · cases isCancel

/-! ### Safety -/

/-- What a cancel does: it takes out the request of its number, if that waits under its key, and
touches nothing else. -/
structure Leaves (key : String) (id : Nat) (w left : Waiting Request) : Prop where
  /-- Batches of other keys stay as they are. -/
  others : ∀ k, k ≠ key → left.get? k = w.get? k
  /-- The batch of the key keeps all requests of other numbers, in order, and its time; only if
  there are none it is given up. -/
  own : left.get? key = (w.get? key).bind (without id)
  /-- No more than one request is taken out. -/
  one : ∀ batch, w.get? key = some batch →
    batch.members.length ≤ (batch.members.filter (·.id != id)).length + 1
  /-- A cancel that comes too late, when the request is not in the batch that now waits under its
  key, changes nothing. -/
  late : (∀ m, Waits w key m → m.id ≠ id) → ∀ k, left.get? k = w.get? k

/-- What is safe in a run, whatever comes next. -/
structure Safe (window : Nat) (events : List (Nat × Event Request)) : Prop where
  /-- Each batch that waits was opened by a request for its key, holds only requests that were
  received for the key since then, in order, and is due the fixed time after it was opened. -/
  opened : ∀ key batch, (run window events).2.get? key = some batch →
    OpenedBy window events key batch
  /-- The timer hands over exactly the batches that are due, and the others stay as they were. -/
  timer : ∀ now, HandsOver (fun batch => batch.deadline ≤ now) (run window events).2
    ((run window events).2.step window now .timer).1
    ((run window events).2.step window now .timer).2
  /-- A cancel takes out no more than its own request, and hands nothing over. -/
  cancel : ∀ now id key,
    ((run window events).2.step window now (.cancel id key)).1 = [] ∧
    Leaves key id (run window events).2 ((run window events).2.step window now (.cancel id key)).2
  /-- After the end nothing waits, and nothing was handed over that was not received with its
  key. -/
  closed : ∀ now, (∀ key, (run window (events ++ [(now, .close)])).2.get? key = none) ∧
    ∀ b ∈ (run window (events ++ [(now, .close)])).1, ∀ m ∈ b.members, m ∈ sends b.key events
  /-- What was received was then handed over once and with its key, unless it was given up while it
  waited. -/
  delivered : ∀ now key m, m ∈ sends key events → ¬ Cancelled window events key m.id →
    (handedIds (run window (events ++ [(now, .close)])).1).count m.id = 1 ∧
    ∃ b ∈ (run window (events ++ [(now, .close)])).1, b.key = key ∧ m ∈ b.members
  /-- What was given up while it waited was never handed over. -/
  dropped : ∀ now key id, Cancelled window events key id →
    id ∉ handedIds (run window (events ++ [(now, .close)])).1

theorem Sound.leaves (s : Sound window events) (fresh : (sentIds events).Nodup) (key : String)
    (id : Nat) : Leaves key id (run window events).2 ((run window events).2.leave key id) := by
  have own := get?_leave (run window events).2 key id key
  rw [if_pos rfl] at own
  refine ⟨?_, own, ?_, ?_⟩
  · intro k other
    rw [get?_leave, if_neg other]
  · intro batch found
    have ids : (batch.members.map Member.id).Nodup :=
      (nodup_sends fresh key).sublist ((s.opened key batch found).members_sublist.map Member.id)
    have few : (batch.members.map Member.id).count id ≤ 1 := List.nodup_iff_count_le_one.1 ids id
    rw [List.count, List.countP_map] at few
    -- what is taken out and what is left make up the batch, and one at most is taken out
    have parts := batch.members.length_eq_countP_add_countP (·.id == id)
    have others : batch.members.countP (fun m => decide ¬ (m.id == id) = true)
        = (batch.members.filter (·.id != id)).length := by
      rw [List.countP_eq_length_filter]
      congr 2
      funext m
      rw [Bool.eq_iff_iff]
      simp
    have taken : batch.members.countP ((· == id) ∘ Member.id) = batch.members.countP (·.id == id) :=
      rfl
    omega
  · intro absent k
    by_cases same : k = key
    · subst same
      rw [own]
      cases found : (run window events).2.get? k with
      | none => rfl
      | some batch =>
        have all : batch.members.filter (·.id != id) = batch.members := by
          refine List.filter_eq_self.2 fun m mem => ?_
          simpa using absent m ⟨batch, found, mem⟩
        have nonempty : batch.members ≠ [] := (s.opened k batch found).nonempty
        rw [Option.bind_some, without_of_ne_nil (by rw [all]; exact nonempty), all]
    · rw [get?_leave, if_neg same]

/--
**Batches are safe over every run.**  The only assumption is that the requests which are received
have different numbers.  Events may come in any order and at any times, for any keys.
-/
theorem safe_of_fresh {Request : Type} (window : Nat) (events : List (Nat × Event Request))
    (fresh : (sentIds events).Nodup) : Safe window events := by
  have s : Sound window events := sound fresh
  have ended : ∀ now, Sound window (events ++ [(now, .close)]) := by
    intro now
    refine sound ?_
    rw [(sends_of_quiet rfl "").2]
    exact fresh
  have emptied : ∀ now, (run window (events ++ [(now, Event.close)])).2 = .empty := by
    intro now
    rw [run_append_singleton]
    rfl
  have kept : ∀ now key id, Cancelled window (events ++ [(now, .close)]) key id ↔
      Cancelled window events key id :=
    fun now key id => cancelled_append_of_ne fun _ _ _ isCancel => by cases isCancel
  refine ⟨s.opened, fun now => handsOver_timer window now _, ?_, ?_, ?_, ?_⟩
  · intro now id key
    exact ⟨rfl, s.leaves fresh key id⟩
  · intro now
    refine ⟨?_, ?_⟩
    · intro key
      rw [emptied, Table.get?_empty]
    · intro b mem m inside
      have received := (ended now).received b mem m inside
      rw [(sends_of_quiet rfl b.key).1] at received
      exact received
  · intro now key m received stayed
    have placed := (ended now).placed key m (by rw [(sends_of_quiet rfl key).1]; exact received)
    -- after the end nothing waits, so two of the three places are left
    rcases placed with ⟨batch, found, -⟩ | ⟨b, mem, own, inside⟩ | cancelled
    · rw [emptied, Table.get?_empty] at found
      cases found
    · refine ⟨?_, b, mem, own, inside⟩
      refine List.count_eq_one_of_mem (ended now).once ?_
      exact mem_handedIds_iff.2 ⟨b, mem, m, inside, rfl⟩
    · exact (stayed ((kept now key m.id).1 cancelled)).elim
  · intro now key id cancelled
    exact ((ended now).gone key id ((kept now key id).2 cancelled)).2.1

/-- Two requests of one key, of which one is given up, and a third after their batch has gone.  When
the second is given up as well, it is too late. -/
def trialEvents : List (Nat × Event String) :=
  [(0, .send 0 "a" "first"), (10, .send 1 "a" "second"), (20, .cancel 0 "a"), (50, .timer),
    (60, .send 2 "a" "third"), (70, .cancel 1 "a")]

/-- Giving up the second once more leaves the third waiting.  At the end the first was never handed
over, and the third was, once. -/
theorem safe_trialEvents :
    (sentIds trialEvents).Nodup ∧ Safe 50 trialEvents ∧
    ((run 50 trialEvents).2.step 50 80 (.cancel 1 "a")).2.get? "a"
      = some ⟨[⟨2, "third"⟩], 110⟩ ∧
    0 ∉ handedIds (run 50 (trialEvents ++ [(90, .close)])).1 ∧
    (handedIds (run 50 (trialEvents ++ [(90, .close)])).1).count 2 = 1 := by
  have fresh : (sentIds trialEvents).Nodup := by decide
  have safe := safe_of_fresh 50 trialEvents fresh
  have waiting : (run 50 trialEvents).2.get? "a" = some ⟨[⟨2, "third"⟩], 110⟩ := rfl
  refine ⟨fresh, safe, ?_, ?_, ?_⟩
  · have absent : ∀ m, Waits (run 50 trialEvents).2 "a" m → m.id ≠ 1 := by
      rintro m ⟨batch, found, mem⟩
      obtain rfl := Option.some.inj (waiting.symm.trans found)
      rw [List.mem_singleton.1 mem]
      decide
    exact ((safe.cancel 80 1 "a").2.late absent "a").trans waiting
  · exact safe.dropped 90 "a" 0
      ⟨trialEvents.take 2, 20, trialEvents.drop 3, rfl, ⟨0, "first"⟩, rfl, _, rfl, by simp⟩
  · have stayed : ¬ Cancelled 50 trialEvents "a" 2 := by
      rintro ⟨before, t, after, form, -⟩
      have asked : (t, Event.cancel 2 "a") ∈ trialEvents := by simp [form]
      simp [trialEvents] at asked
    exact (safe.delivered 90 "a" ⟨2, "third"⟩ (by simp [sends, sentBy, trialEvents]) stayed).1

end OnionSwarm.Batch.Waiting

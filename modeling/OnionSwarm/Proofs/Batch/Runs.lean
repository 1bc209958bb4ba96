/-
Runs of the batches: what was received, what was handed over, and what was given up.

A run is a list of events, each with its time.  A request is named by its number, and the numbers of
the requests that are received are all different; so a number tells the key and the request.

Every claim about runs is an induction from the last event back, and the definitions here are made
for that.  A cancel counts by what waited when it came (`Cancelled`), and a batch is traced to the
request that opened it (`OpenedBy`); one more event at the end leaves both as they were, or adds to
them what it says itself.
-/
import Mathlib.Tactic.Common
import Mathlib.Data.List.Nodup
import OnionSwarm.Proofs.Batch.Steps

namespace OnionSwarm.Batch.Waiting

variable {Request : Type} {window : Nat} {events : List (Nat × Event Request)}

/-! ### What was received -/

/-- The request that an event brings for a key. -/
def sentBy (key : String) : Nat × Event Request → Option (Member Request)
  | (_, .send id k request) => if k = key then some ⟨id, request⟩ else none
  | _ => none

/-- The requests that were received with a key, in the order of their coming. -/
def sends (key : String) (events : List (Nat × Event Request)) : List (Member Request) :=
  events.filterMap (sentBy key)

/-- The number of the request that an event brings. -/
def idOf : Nat × Event Request → Option Nat
  | (_, .send id _ _) => some id
  | _ => none

/-- The numbers of all requests that were received. -/
def sentIds (events : List (Nat × Event Request)) : List Nat := events.filterMap idOf

theorem sends_append_singleton (key : String) (events : List (Nat × Event Request))
    (e : Nat × Event Request) :
    sends key (events ++ [e]) = sends key events ++ (sentBy key e).toList := by
  rw [sends, List.filterMap_append]
  cases sent : sentBy key e <;> simp [sends, sent]

theorem sentIds_append_singleton (events : List (Nat × Event Request)) (e : Nat × Event Request) :
    sentIds (events ++ [e]) = sentIds events ++ (idOf e).toList := by
  rw [sentIds, List.filterMap_append]
  cases id : idOf e <;> simp [sentIds, id]

/-- An event that brings nothing adds nothing to what was received. -/
theorem sends_of_quiet {e : Nat × Event Request} (quiet : idOf e = none) (key : String) :
    sends key (events ++ [e]) = sends key events ∧ sentIds (events ++ [e]) = sentIds events := by
  have brings : sentBy key e = none := by
    obtain ⟨t, event⟩ := e
    cases event with
    | send id k request => cases quiet
    | cancel id k => rfl
    | timer => rfl
    | close => rfl
  rw [sends_append_singleton, sentIds_append_singleton, brings, quiet]
  exact ⟨List.append_nil _, List.append_nil _⟩

theorem mem_sends_iff {key : String} {m : Member Request} :
    m ∈ sends key events ↔ ∃ t, (t, .send m.id key m.request) ∈ events := by
  rw [sends, List.mem_filterMap]
  constructor
  · rintro ⟨⟨t, event⟩, mem, sent⟩
    cases event with
    | send id k request =>
      rw [sentBy] at sent
      split at sent
      · rename_i same
        obtain rfl := Option.some.inj sent
        exact ⟨t, same ▸ mem⟩
      · cases sent
    | cancel id k => cases sent
    | timer => cases sent
    | close => cases sent
  · rintro ⟨t, mem⟩
    exact ⟨_, mem, if_pos rfl⟩

theorem id_mem_sentIds {key : String} {m : Member Request} (mem : m ∈ sends key events) :
    m.id ∈ sentIds events := by
  obtain ⟨t, received⟩ := mem_sends_iff.1 mem
  exact List.mem_filterMap.2 ⟨_, received, rfl⟩

/-- Two events that bring the same number are one event. -/
theorem event_unique (fresh : (sentIds events).Nodup) {e e' : Nat × Event Request} {id : Nat}
    (mem : e ∈ events) (mem' : e' ∈ events) (brings : idOf e = some id)
    (brings' : idOf e' = some id) : e = e' := by
  induction events with
  | nil => cases mem
  | cons first rest ih =>
    have later : ∀ {a b}, idOf a = some id → idOf b = some id → a = first → b ∈ rest → False := by
      rintro a b ofA ofB rfl inRest
      rw [sentIds, List.filterMap_cons_some ofA, List.nodup_cons] at fresh
      exact fresh.1 (List.mem_filterMap.2 ⟨b, inRest, ofB⟩)
    have fresh' : (sentIds rest).Nodup := by
      refine fresh.sublist ?_
      exact (List.sublist_cons_self first rest).filterMap idOf
    rcases List.mem_cons.1 mem with here | there
    · rcases List.mem_cons.1 mem' with here' | there'
      · rw [here, here']
      · exact (later brings brings' here there').elim
    · rcases List.mem_cons.1 mem' with here' | there'
      · exact (later brings' brings here' there).elim
      · exact ih fresh' there there'

/-- The number of a request tells its key and the request. -/
theorem sends_unique (fresh : (sentIds events).Nodup) {key key' : String}
    {m m' : Member Request} (mem : m ∈ sends key events) (mem' : m' ∈ sends key' events)
    (same : m.id = m'.id) : key = key' ∧ m = m' := by
  obtain ⟨t, received⟩ := mem_sends_iff.1 mem
  obtain ⟨t', received'⟩ := mem_sends_iff.1 mem'
  have one := event_unique fresh received received' rfl (congrArg some same.symm)
  obtain ⟨id, request⟩ := m
  obtain ⟨id', request'⟩ := m'
  simp only [Prod.mk.injEq, Event.send.injEq] at one
  obtain ⟨-, rfl, rfl, rfl⟩ := one
  exact ⟨rfl, rfl⟩

theorem nodup_sends (fresh : (sentIds events).Nodup) (key : String) :
    ((sends key events).map Member.id).Nodup := by
  refine fresh.sublist ?_
  clear fresh
  induction events with
  | nil => exact List.Sublist.slnil
  | cons e rest ih =>
    obtain ⟨t, event⟩ := e
    cases event with
    | send id k request =>
      have first : sentIds ((t, .send id k request) :: rest) = id :: sentIds rest := rfl
      rw [first]
      by_cases own : k = key
      · have more : sends key ((t, .send id k request) :: rest)
            = ⟨id, request⟩ :: sends key rest :=
          List.filterMap_cons_some (if_pos own)
        rw [more, List.map_cons]
        exact ih.cons_cons id
      · have same : sends key ((t, .send id k request) :: rest) = sends key rest :=
          List.filterMap_cons_none (if_neg own)
        rw [same]
        exact ih.cons id
    | cancel id k => exact ih
    | timer => exact ih
    | close => exact ih

/-! ### Runs -/

theorem run_append_singleton (window : Nat) (events : List (Nat × Event Request))
    (e : Nat × Event Request) :
    run window (events ++ [e])
      = ((run window events).1 ++ ((run window events).2.step window e.1 e.2).1,
          ((run window events).2.step window e.1 e.2).2) := by
  rw [run, List.foldl_append]
  rfl

/-- The numbers of the requests in batches that were handed over. -/
def handedIds (handed : List (Handed Request)) : List Nat :=
  handed.flatMap fun b => b.members.map Member.id

theorem mem_handedIds_iff {handed : List (Handed Request)} {id : Nat} :
    id ∈ handedIds handed ↔ ∃ b ∈ handed, ∃ m ∈ b.members, m.id = id := by
  simp only [handedIds, List.mem_flatMap, List.mem_map]

theorem handedIds_append (before now : List (Handed Request)) :
    handedIds (before ++ now) = handedIds before ++ handedIds now := List.flatMap_append

/-- What is handed over was waiting. -/
theorem HandsOver.waited {due : Pending Request → Bool} {w left : Waiting Request}
    {handed : List (Handed Request)} (h : HandsOver due w handed left) {id : Nat}
    (mem : id ∈ handedIds handed) : ∃ key m, m.id = id ∧ Waits w key m := by
  obtain ⟨b, isIn, m, inside, rfl⟩ := mem_handedIds_iff.1 mem
  exact ⟨b.key, m, rfl, h.waits_iff.2 (.inr ⟨b, isIn, rfl, inside⟩)⟩

/-- A caller gave up a request that was waiting then. -/
def Cancelled (window : Nat) (events : List (Nat × Event Request)) (key : String) (id : Nat) :
    Prop :=
  ∃ before t after, events = before ++ (t, .cancel id key) :: after ∧
    ∃ m, m.id = id ∧ Waits (run window before).2 key m

/-- How a batch came to wait under a key.  It was opened by a request for that key when nothing
waited there, it was due a fixed time later from then on, and a batch has waited there ever since.
Its requests are some of those that were received since, in the same order. -/
def OpenedBy (window : Nat) (events : List (Nat × Event Request)) (key : String)
    (batch : Pending Request) : Prop :=
  ∃ before t id request after, events = before ++ (t, .send id key request) :: after ∧
    (run window before).2.get? key = none ∧
    batch.deadline = t + window ∧
    (∀ middle rest, after = middle ++ rest →
      ∃ b, (run window (before ++ (t, .send id key request) :: middle)).2.get? key = some b ∧
        b.deadline = t + window) ∧
    batch.members ≠ [] ∧
    batch.members.Sublist (sends key ((t, .send id key request) :: after))

/-- A list that ends in an element ends in it wherever it is cut. -/
theorem snoc_eq_append {α : Type} {as bs cs : List α} {a : α} (same : as ++ [a] = bs ++ cs) :
    cs = [] ∧ bs = as ++ [a] ∨ ∃ cs', cs = cs' ++ [a] ∧ as = bs ++ cs' := by
  rcases List.eq_nil_or_concat' cs with rfl | ⟨cs', c, rfl⟩
  · left
    exact ⟨rfl, by rw [List.append_nil] at same; exact same.symm⟩
  · right
    rw [← List.append_assoc] at same
    obtain ⟨front, back⟩ := List.append_inj' same rfl
    exact ⟨cs', by rw [List.singleton_inj.1 back], front⟩

theorem cancelled_append_singleton_iff {e : Nat × Event Request} {key : String} {id : Nat} :
    Cancelled window (events ++ [e]) key id ↔ Cancelled window events key id ∨
      (∃ t, e = (t, .cancel id key)) ∧ ∃ m, m.id = id ∧ Waits (run window events).2 key m := by
  constructor
  · rintro ⟨before, t, after, form, waited⟩
    rcases snoc_eq_append form with ⟨none, -⟩ | ⟨after', rest, front⟩
    · cases none
    · cases after' with
      | nil =>
        right
        rw [List.nil_append, List.cons.injEq] at rest
        rw [List.append_nil] at front
        exact ⟨⟨t, rest.1.symm⟩, front ▸ waited⟩
      | cons x more =>
        left
        rw [List.cons_append, List.cons.injEq] at rest
        exact ⟨before, t, more, by rw [front, rest.1], waited⟩
  · rintro (⟨before, t, after, form, waited⟩ | ⟨⟨t, rfl⟩, waited⟩)
    · refine ⟨before, t, after ++ [e], ?_, waited⟩
      rw [form, List.append_assoc, List.cons_append]
    · exact ⟨events, t, [], rfl, waited⟩

/-- Only a cancel gives something up. -/
theorem cancelled_append_of_ne {e : Nat × Event Request}
    (noCancel : ∀ t id key, e ≠ (t, .cancel id key)) {key : String} {id : Nat} :
    Cancelled window (events ++ [e]) key id ↔ Cancelled window events key id := by
  rw [cancelled_append_singleton_iff]
  constructor
  · rintro (before | ⟨⟨t, now⟩, -⟩)
    · exact before
    · exact (noCancel t id key now).elim
  · exact .inl

/-- A batch that goes on waiting with the same time was opened by the same request. -/
theorem OpenedBy.extend {e : Nat × Event Request} {key : String} {batch batch' : Pending Request}
    (opened : OpenedBy window events key batch)
    (found : (run window (events ++ [e])).2.get? key = some batch')
    (deadline : batch'.deadline = batch.deadline) (nonempty : batch'.members ≠ [])
    (members : batch'.members.Sublist (batch.members ++ (sentBy key e).toList)) :
    OpenedBy window (events ++ [e]) key batch' := by
  obtain ⟨before, t, id, request, after, form, free, due, since, -, order⟩ := opened
  have form' : events ++ [e] = before ++ (t, .send id key request) :: (after ++ [e]) := by
    rw [form, List.append_assoc, List.cons_append]
  refine ⟨before, t, id, request, after ++ [e], form', free, ?_, ?_, nonempty, ?_⟩
  · rw [deadline, due]
  · intro middle rest cut
    rcases snoc_eq_append cut with ⟨-, whole⟩ | ⟨rest', -, front⟩
    · rw [whole, ← form']
      exact ⟨batch', found, by rw [deadline, due]⟩
    · exact since middle rest' front
  · rw [← List.cons_append, sends_append_singleton]
    exact members.trans (order.append_right _)

/-- A batch that has just been opened. -/
theorem openedBy_send {t id : Nat} {key : String} {request : Request}
    (free : (run window events).2.get? key = none)
    (found : (run window (events ++ [(t, .send id key request)])).2.get? key
      = some ⟨[⟨id, request⟩], t + window⟩) :
    OpenedBy window (events ++ [(t, .send id key request)]) key ⟨[⟨id, request⟩], t + window⟩ := by
  refine ⟨events, t, id, request, [], rfl, free, rfl, ?_, by simp, ?_⟩
  · intro middle rest cut
    obtain ⟨rfl, -⟩ := List.nil_eq_append_iff.1 cut
    exact ⟨_, found, rfl⟩
  · simp [sends, sentBy]

end OnionSwarm.Batch.Waiting

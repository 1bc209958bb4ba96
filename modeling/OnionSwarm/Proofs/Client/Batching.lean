/-
No caller notices that calls share a batch.

A batch holds calls of one key, so they are for one account and for one node, if a node is forced at
all.  The combined call is made out for that account and that node, and holds the calls in the order
of their coming.  If the layer below answers a combined call part by part, then what it answers to a
part is what the caller is told, and what else was in the batch makes no difference.

The layer below may do anything besides, and may wait; all that is asked of it is its answer
(`AnswersEach`).  How the calls came to share a batch is asked of the run of the batches only.
-/
import Mathlib.Tactic.Common
import OnionSwarm.Client.Batching
import OnionSwarm.Proofs.Batch.Keys
import OnionSwarm.Proofs.Batch.Safety
import OnionSwarm.Proofs.Job

namespace OnionSwarm

/-! ### One batch -/

namespace Batch

/-- The answer lists these results; it may hold more. -/
def Lists (results : List Json) (answer : Except ApiFailure Json) : Prop :=
  ∃ v, answer = .ok v ∧ v.get? "results" = some (.array results)

theorem prepare_swarmRules (members : List (Member SwarmCall)) :
    prepare swarmRules members = ⟨[], members.map fun m => (m, m.request.call)⟩ := by
  induction members with
  | nil => rfl
  | cons m rest ih =>
    rw [prepare, ih]
    rfl

theorem distribute_swarmRules {members : List (Member SwarmCall)} {results : List Json}
    {answer : Except ApiFailure Json} (lists : Lists results answer)
    (each : results.length = members.length) :
    (prepare swarmRules members).distribute swarmRules answer
      = (members.map Member.id).zip (results.map subResult) := by
  obtain ⟨v, rfl, listed⟩ := lists
  have split : swarmSplit v = .ok (results.map subResult) := by
    simp only [swarmSplit, listed]
    rfl
  have parts : (prepare swarmRules members).parts swarmRules (.ok v)
      = .ok (results.map subResult) := by
    rw [prepare_swarmRules]
    simp only [Prepared.parts, swarmRules, split, List.length_map, each, if_true]
  rw [Prepared.distribute, parts, prepare_swarmRules]
  simp only [List.map_map]
  rfl

end Batch

namespace Batching

open Batch Waiting

variable {ω : Type}

/-- What the layer below answers to a call for an account, when a node at some site is forced. -/
abbrev Replies := String → Option Site → NodeCall → Json

/-- The layer below answers a combined call with the answers to its parts. -/
def AnswersEach (replies : Replies) (inner : SwarmApi ω) : Prop :=
  ∀ account forced calls, calls ≠ [] →
    (inner ⟨account, Storage.batch calls, forced⟩).Yields
      (Lists (calls.map (replies account (forced.map Node.site))))

/-- What a caller is told about the answer to the own call. -/
def own (replies : Replies) (c : SwarmCall) : Except ApiFailure Json :=
  subResult (replies c.account (c.forced.map Node.site) c.call)

/-- The call stands for all that are in the batch. -/
structure StandsFor (ω : Type) (r : SwarmCall) (b : Handed SwarmCall) : Prop where
  /-- It goes where each of them would go. -/
  address : ∀ m ∈ b.members, m.request.account = r.account ∧
    m.request.forced.map Node.site = r.forced.map Node.site
  /-- It is a batch of them. -/
  call : r.call = Storage.batch (b.members.map (·.request.call))
  /-- It holds method and parameters of each, in order. -/
  requests : r.call.params.get? "requests"
    = some (.array (b.members.map (·.request.call.toJson)))
  /-- It is all that is sent. -/
  sent : ∀ (inner : SwarmApi ω) (window : Nat), sendBatch swarmRules inner window b = do
    Job.wait window
    let answer ← Work.apart (inner r)
    return (prepare swarmRules b.members).distribute swarmRules answer

theorem exists_standsFor (ω : Type) {b : Handed SwarmCall} (nonempty : b.members ≠ [])
    (alike : ∀ m ∈ b.members, ∀ m' ∈ b.members, m.request.account = m'.request.account ∧
      m.request.forced.map Node.site = m'.request.forced.map Node.site) :
    ∃ r, StandsFor ω r b := by
  obtain ⟨key, members⟩ := b
  cases members with
  | nil => exact (nonempty rfl).elim
  | cons first rest =>
    let r : SwarmCall := ⟨first.request.account,
      Storage.batch ((first :: rest).map (·.request.call)), first.request.forced⟩
    refine ⟨r, ?_, rfl, ?_, ?_⟩
    · exact fun m mem => alike m mem first (List.mem_cons_self ..)
    · rw [show (first :: rest).map (·.request.call.toJson)
          = ((first :: rest).map (·.request.call)).map NodeCall.toJson by rw [List.map_map]; rfl]
      rfl
    · intro inner window
      have combined : (prepare swarmRules (first :: rest)).combined? swarmRules = some r := by
        rw [prepare_swarmRules]
        simp only [Prepared.combined?, List.map_cons, List.map_map, swarmRules, r]
        rfl
      have rejected : (prepare swarmRules (first :: rest)).rejected = [] := by
        rw [prepare_swarmRules]
      simp only [sendBatch, execute, combined, rejected, List.nil_append]

theorem mem_methods_of_swarmKey? {c : SwarmCall} {key : String} (keyed : swarmKey? c = some key) :
    c.call.method ∈ methods := by
  unfold swarmKey? at keyed
  split at keyed
  · assumption
  · cases keyed

/-- A batch of one key can be stood for. -/
theorem exists_standsFor_of_key (ω : Type) {b : Handed SwarmCall} (nonempty : b.members ≠ [])
    (keyed : ∀ m ∈ b.members, swarmKey? m.request = some b.key ∧ Plain m.request) :
    ∃ r, StandsFor ω r b := by
  refine exists_standsFor ω nonempty fun m mem m' mem' => ?_
  obtain ⟨key, plain⟩ := keyed m mem
  obtain ⟨key', plain'⟩ := keyed m' mem'
  exact (swarmKey?_eq_iff (mem_methods_of_swarmKey? key) (mem_methods_of_swarmKey? key') plain
    plain').1 (key.trans key'.symm)

/-- What a batch answers to its callers. -/
theorem yields_sendBatch {replies : Replies} {inner : SwarmApi ω}
    (layer : AnswersEach replies inner) (window : Nat) {b : Handed SwarmCall}
    (nonempty : b.members ≠ []) {r : SwarmCall} (stands : StandsFor ω r b) :
    (sendBatch swarmRules inner window b).Yields
      (· = b.members.map fun m => (m.id, own replies m.request)) := by
  obtain ⟨account, call, forced⟩ := r
  obtain rfl := stands.call
  rw [stands.sent]
  have answered := layer account forced (b.members.map (·.request.call)) (by simpa using nonempty)
  refine (Job.yields_wait window).bind fun _ _ => (Work.yields_apart answered).bind ?_
  intro answer lists
  refine Job.yields_pure ?_
  rw [distribute_swarmRules lists (by simp only [List.length_map])]
  simp only [List.map_map]
  rw [List.zip_map']
  refine List.map_congr_left fun m mem => ?_
  obtain ⟨accounts, sites⟩ := stands.address m mem
  simp only [own, accounts, sites, Function.comp_apply]

/-! ### Every caller -/

/-- What is found under a number is what is there, if nothing else is. -/
theorem lookup_of_unique {α : Type} {entries : List (Nat × α)} {i : Nat} {a : α}
    (mem : (i, a) ∈ entries) (unique : ∀ other, (i, other) ∈ entries → other = a) :
    entries.lookup i = some a := by
  induction entries with
  | nil => cases mem
  | cons entry rest ih =>
    obtain ⟨j, b⟩ := entry
    by_cases same : i = j
    · subst same
      rw [List.lookup_cons_self, unique b (List.mem_cons_self ..)]
    · have later : (i, a) ∈ rest := by
        rcases List.mem_cons.1 mem with first | later
        · exact (same (Prod.mk.inj first).1).elim
        · exact later
      rw [List.lookup_cons, beq_eq_false_iff_ne.2 same]
      exact ih later fun other is => unique other (List.mem_cons_of_mem _ is)

/-- The calls that were received have different numbers, came with their keys, and are for accounts
without an `@`. -/
structure Proper (events : List (Nat × Event SwarmCall)) : Prop where
  fresh : (sentIds events).Nodup
  keyed : ∀ key, ∀ m ∈ sends key events, swarmKey? m.request = some key
  plain : ∀ key, ∀ m ∈ sends key events, Plain m.request

variable {window : Nat} {events : List (Nat × Event SwarmCall)}

theorem Proper.ended (proper : Proper events) (now : Nat) :
    Proper (events ++ [(now, .close)]) := by
  have same : ∀ key, sends key (events ++ [(now, .close)]) = sends key events :=
    fun key => (sends_of_quiet rfl key).1
  refine ⟨?_, ?_, ?_⟩
  · rw [(sends_of_quiet rfl "").2]
    exact proper.fresh
  · intro key m mem
    exact proper.keyed key m (same key ▸ mem)
  · intro key m mem
    exact proper.plain key m (same key ▸ mem)

/-- A batch that was handed over serves all its callers. -/
structure Serves (replies : Replies) (inner : SwarmApi ω) (window : Nat)
    (events : List (Nat × Event SwarmCall)) (b : Handed SwarmCall) : Prop where
  /-- Its calls are in the order of their coming. -/
  order : b.members.Sublist (sends b.key events)
  /-- One call stands for all of them. -/
  stands : ∃ r, StandsFor ω r b
  /-- Each is told about the answer to the own call. -/
  answers : (sendBatch swarmRules inner window b).Yields
    (· = b.members.map fun m => (m.id, own replies m.request))

theorem Proper.serves (proper : Proper events) {replies : Replies} {inner : SwarmApi ω}
    (layer : AnswersEach replies inner) {b : Handed SwarmCall} (mem : b ∈ (run window events).1) :
    Serves replies inner window events b := by
  obtain ⟨nonempty, order⟩ := handed_spec proper.fresh mem
  have keyed : ∀ m ∈ b.members, swarmKey? m.request = some b.key ∧ Plain m.request := by
    intro m isIn
    have received := order.subset isIn
    exact ⟨proper.keyed b.key m received, proper.plain b.key m received⟩
  obtain ⟨r, standsFor⟩ := exists_standsFor_of_key ω nonempty keyed
  exact ⟨order, ⟨r, standsFor⟩, yields_sendBatch layer window nonempty standsFor⟩

/-- Each caller finds the own answer. -/
theorem Serves.lookup {replies : Replies} {inner : SwarmApi ω} {b : Handed SwarmCall}
    (serves : Serves replies inner window events b) (fresh : (sentIds events).Nodup)
    {m : Member SwarmCall} (mem : m ∈ b.members) :
    (sendBatch swarmRules inner window b).Yields
      fun answers => answers.lookup m.id = some (own replies m.request) := by
  refine serves.answers.mono ?_
  rintro _ rfl
  refine lookup_of_unique (List.mem_map.2 ⟨m, mem, rfl⟩) ?_
  intro other is
  obtain ⟨m', mem', same⟩ := List.mem_map.1 is
  obtain ⟨ids, rfl⟩ := Prod.mk.inj same
  rw [(sends_unique fresh (serves.order.subset mem') (serves.order.subset mem) ids).2]

/-! ### Calls at the same time -/

/-- Calls that come at the same time are all in batches, each in one of its key. -/
theorem batches_spec {Request : Type} {calls : List (Nat × String × Request)}
    (fresh : (calls.map Prod.fst).Nodup) :
    (∀ b ∈ batches calls, b.members ≠ [] ∧ ∀ m ∈ b.members, (m.id, b.key, m.request) ∈ calls) ∧
    ∀ call ∈ calls, ∃ b ∈ batches calls, b.key = call.2.1 ∧ ⟨call.1, call.2.2⟩ ∈ b.members := by
  set sent : List (Nat × Event Request) := calls.map fun c => (0, Event.send c.1 c.2.1 c.2.2)
    with sentIs
  have received : ∀ key m, m ∈ sends key (sent ++ [(0, .timer)]) ↔ (m.id, key, m.request) ∈ calls := by
    intro key m
    rw [mem_sends_iff]
    simp [sentIs]
  have fresh' : (sentIds (sent ++ [(0, .timer)])).Nodup := by
    have ids : sentIds (sent ++ [(0, .timer)]) = calls.map Prod.fst := by
      rw [(sends_of_quiet rfl "").2, sentIs, sentIds, List.filterMap_map]
      exact congrFun (List.filterMap_eq_map (f := Prod.fst)) calls
    rw [ids]
    exact fresh
  have s : Sound 0 (sent ++ [(0, .timer)]) := sound fresh'
  have mem_batches : ∀ b, b ∈ batches calls ↔ b ∈ (run 0 (sent ++ [(0, .timer)])).1 :=
    fun b => List.mem_mergeSort
  refine ⟨?_, ?_⟩
  · intro b mem
    obtain ⟨nonempty, order⟩ := handed_spec fresh' ((mem_batches b).1 mem)
    exact ⟨nonempty, fun m isIn => (received b.key m).1 (order.subset isIn)⟩
  · rintro ⟨id, key, request⟩ mem
    rcases s.placed key ⟨id, request⟩ ((received key _).2 mem) with
      ⟨batch, found, -⟩ | ⟨b, isIn, own, inside⟩ | ⟨before, t, after, form, -⟩
    · -- all that waits is due at once, and the timer hands it over
      obtain ⟨before, t, id', request', after, form, -, deadline, -⟩ := s.opened key batch found
      have atOnce : (t, Event.send id' key request') ∈ sent ++ [(0, .timer)] := by
        rw [form]
        exact List.mem_append_right _ (List.mem_cons_self ..)
      have zero : t = 0 := by
        simp only [sentIs, List.mem_append, List.mem_map, List.mem_singleton] at atOnce
        rcases atOnce with ⟨c, -, same⟩ | same
        · exact (Prod.mk.inj same).1.symm
        · exact (Prod.mk.inj same).1
      rw [run_append_singleton] at found
      rw [(handsOver_timer 0 0 _).left, Option.filter_eq_some_iff] at found
      have notDue := found.2
      rw [deadline, zero] at notDue
      cases notDue
    · exact ⟨b, (mem_batches b).2 isIn, own, inside⟩
    · have isCancel : (t, Event.cancel id key) ∈ sent ++ [(0, .timer)] := by
        rw [form]
        exact List.mem_append_right _ (List.mem_cons_self ..)
      simp [sentIs] at isCancel

/-- Calls that come at the same time are answered as each would be alone. -/
theorem yields_sendAll {replies : Replies} {inner : SwarmApi ω}
    (layer : AnswersEach replies inner) (window : Nat) {requests : List SwarmCall}
    (proper : ∀ c ∈ requests, c.call.method ∈ methods ∧ Plain c) :
    (sendAll swarmRules inner window requests).Yields (· = requests.map (own replies)) := by
  have keyed : ∀ r ∈ requests.zipIdx, ∃ key, swarmKey? r.1 = some key := by
    intro r mem
    have batchable := (proper r.1 (List.fst_mem_of_mem_zipIdx mem)).1
    cases forced : r.1.forced with
    | none => exact ⟨_, swarmKey?_of_free batchable forced⟩
    | some n => exact ⟨_, swarmKey?_of_forced batchable forced⟩
  have alone : (requests.zipIdx.filter fun r => (swarmRules.key? r.1).isNone) = [] := by
    refine List.filter_eq_nil_iff.2 fun r mem => ?_
    obtain ⟨key, is⟩ := keyed r mem
    simp [swarmRules, is]
  set calls := requests.zipIdx.filterMap fun r => (swarmRules.key? r.1).map fun key => (r.2, key, r.1)
    with callsAre
  have mem_calls : ∀ i key c, (i, key, c) ∈ calls ↔
      (c, i) ∈ requests.zipIdx ∧ swarmKey? c = some key := by
    intro i key c
    simp [callsAre, swarmRules]
  have fresh : (calls.map Prod.fst).Nodup := by
    have numbers : calls.map Prod.fst = requests.zipIdx.map Prod.snd := by
      rw [callsAre, List.map_filterMap]
      refine (List.filterMap_congr fun r mem => ?_).trans
        (congrFun (List.filterMap_eq_map (f := Prod.snd)) _)
      obtain ⟨key, is⟩ := keyed r mem
      simp [swarmRules, is]
    rw [numbers, List.zipIdx_map_snd]
    exact List.nodup_range' ..
  obtain ⟨made, found⟩ := batches_spec fresh
  -- a batch tells each of its members what that would be told alone
  have each : ∀ b ∈ batches calls, (sendBatch swarmRules inner window b).Yields
      (· = b.members.map fun m => (m.id, own replies m.request)) := by
    intro b mem
    obtain ⟨nonempty, inside⟩ := made b mem
    obtain ⟨r, standsFor⟩ := exists_standsFor_of_key ω nonempty fun m isIn => by
      obtain ⟨numbered, key⟩ := (mem_calls ..).1 (inside m isIn)
      exact ⟨key, (proper _ (List.fst_mem_of_mem_zipIdx numbered)).2⟩
    exact yields_sendBatch layer window nonempty standsFor
  -- the numbers are all different, so each call finds what its own batch told it
  have lookup : ∀ r ∈ requests.zipIdx,
      ((batches calls).map fun b => b.members.map fun m =>
        (m.id, own replies m.request)).flatten.lookup r.2 = some (own replies r.1) := by
    intro r mem
    obtain ⟨key, is⟩ := keyed r mem
    have isCall : (r.2, key, r.1) ∈ calls := (mem_calls ..).2 ⟨mem, is⟩
    obtain ⟨b, isIn, -, inside⟩ := found _ isCall
    refine lookup_of_unique ?_ ?_
    · rw [List.mem_flatten]
      exact ⟨_, List.mem_map.2 ⟨b, isIn, rfl⟩, List.mem_map.2 ⟨_, inside, rfl⟩⟩
    · intro other isOther
      rw [List.mem_flatten] at isOther
      obtain ⟨_, of, entry⟩ := isOther
      obtain ⟨b', isIn', rfl⟩ := List.mem_map.1 of
      obtain ⟨m', inside', same⟩ := List.mem_map.1 entry
      obtain ⟨ids, rfl⟩ := Prod.mk.inj same
      have isCall' := (made b' isIn').2 m' inside'
      have one := List.inj_on_of_nodup_map fresh isCall' isCall ids
      rw [(Prod.mk.inj (Prod.mk.inj one).2).2]
  simp only [sendAll, alone, List.map_nil, List.nil_append]
  refine (Job.yields_together _ each).bind ?_
  rintro _ rfl
  refine Job.yields_pure ?_
  have numbered : requests.map (own replies) = requests.zipIdx.map fun r => own replies r.1 := by
    conv_lhs => rw [← List.zipIdx_map_fst 0 requests, List.map_map]
    rfl
  rw [numbered]
  refine List.map_congr_left fun r mem => ?_
  rw [lookup r mem, Option.getD_some]

/--
**Batching is not noticed.**  Calls share a key if they go to the same place.  However they come to
share batches, one call stands for all that are in a batch; and if the layer below answers it part
by part, then each caller is told what is made of the answer to the own call, whatever else was in
the batch.
-/
theorem batching_unnoticed {replies : Replies} {inner : SwarmApi ω}
    (layer : AnswersEach replies inner) :
    (∀ c c' : SwarmCall, c.call.method ∈ methods → c'.call.method ∈ methods → Plain c → Plain c' →
      (swarmKey? c = swarmKey? c' ↔
        c.account = c'.account ∧ c.forced.map Node.site = c'.forced.map Node.site)) ∧
    (∀ window events, Proper events →
      (∀ b ∈ (run window events).1, Serves replies inner window events b) ∧
      ∀ now key m, m ∈ sends key events → ¬ Cancelled window events key m.id →
        ∃ b ∈ (run window (events ++ [(now, .close)])).1, b.key = key ∧ m ∈ b.members ∧
          (sendBatch swarmRules inner window b).Yields
            fun answers => answers.lookup m.id = some (own replies m.request)) ∧
    ∀ window requests, (∀ c ∈ requests, c.call.method ∈ methods ∧ Plain c) →
      (sendAll swarmRules inner window requests).Yields (· = requests.map (own replies)) := by
  refine ⟨fun _ _ => swarmKey?_eq_iff, fun window events proper => ⟨?_, ?_⟩, ?_⟩
  · exact fun b mem => proper.serves layer mem
  · intro now key m received stayed
    obtain ⟨b, mem, own, inside⟩ := exists_handed proper.fresh now received stayed
    have serves := (proper.ended now).serves layer mem
    exact ⟨b, mem, own, inside, serves.lookup (proper.ended now).fresh inside⟩
  · exact fun window requests proper => yields_sendAll layer window proper

/-- What a layer for trials answers to one call: the account and the call itself. -/
def echo (account : String) (call : Json) : Json :=
  .ofMembers [("code", .nat 200), ("body", .ofMembers [("account", .text account), ("call", call)])]

/-- A layer for trials that answers each part of a combined call. -/
def echoes : SwarmApi Unit := fun c =>
  let parts := ((c.call.params.get? "requests").bind Json.asArray?).getD []
  pure (.ok (.ofMembers [("results", .array (parts.map (echo c.account)))]))

theorem answersEach_echoes : AnswersEach (fun account _ call => echo account call.toJson) echoes := by
  intro account forced calls _
  refine Job.yields_pure ⟨_, rfl, ?_⟩
  have parts : (Storage.batch calls).params.get? "requests"
      = some (.array (calls.map NodeCall.toJson)) := rfl
  rw [parts]
  simp only [Option.bind_some, Json.asArray?, Option.getD_some, List.map_map]
  rfl

/-- A call for trials. -/
def trialCall (account method : String) (forced : Option Node) : SwarmCall :=
  ⟨account, ⟨method, .object []⟩, forced⟩

/-- A node for trials. -/
def trialNode : Node := ⟨"https://10.1.0.1", 22, ⟨"key", "key"⟩, ⟨2, 8, 0⟩⟩

/-- Two calls for one account, one for another, and one for the first that forces a node. -/
def trialCalls : List SwarmCall :=
  [trialCall "05aa" "retrieve" none, trialCall "05bb" "store" none,
    trialCall "05aa" "expire" none, trialCall "05aa" "delete" (some trialNode)]

/-- The same calls one after another, of which the third is given up. -/
def trialArrivals : List (Nat × Event SwarmCall) :=
  [(0, .send 0 "05aa" (trialCall "05aa" "retrieve" none)),
    (10, .send 1 "05bb" (trialCall "05bb" "store" none)),
    (20, .send 2 "05aa" (trialCall "05aa" "expire" none)),
    (30, .send 3 "05aa@https://10.1.0.1:22" (trialCall "05aa" "delete" (some trialNode))),
    (35, .cancel 2 "05aa")]

theorem proper_trialArrivals : Proper trialArrivals := by
  have each : ∀ key, ∀ m ∈ sends key trialArrivals,
      swarmKey? m.request = some key ∧ Plain m.request := by
    rintro key ⟨id, request⟩ mem
    obtain ⟨t, received⟩ := mem_sends_iff.1 mem
    simp only [trialArrivals, List.mem_cons, Prod.mk.injEq, Event.send.injEq, List.not_mem_nil,
      reduceCtorEq, and_false, or_false] at received
    rcases received with
      ⟨-, rfl, rfl, rfl⟩ | ⟨-, rfl, rfl, rfl⟩ | ⟨-, rfl, rfl, rfl⟩ | ⟨-, rfl, rfl, rfl⟩
    all_goals decide +kernel
  exact ⟨by decide, fun key m mem => (each key m mem).1, fun key m mem => (each key m mem).2⟩

theorem batching_unnoticed_trialCalls :
    AnswersEach (fun account _ call => echo account call.toJson) echoes ∧ Proper trialArrivals ∧
    (∃ b ∈ (run 50 (trialArrivals ++ [(40, .close)])).1, b.key = "05aa" ∧
      (sendBatch swarmRules echoes 50 b).Yields fun answers =>
        answers.lookup 0 = some (own (fun account _ call => echo account call.toJson)
          (trialCall "05aa" "retrieve" none))) ∧
    (sendAll swarmRules echoes 50 trialCalls).Yields
      (· = trialCalls.map (own fun account _ call => echo account call.toJson)) := by
  obtain ⟨-, runs, together⟩ := batching_unnoticed answersEach_echoes
  obtain ⟨-, served⟩ := runs 50 trialArrivals proper_trialArrivals
  refine ⟨answersEach_echoes, proper_trialArrivals, ?_, ?_⟩
  · have received : ⟨0, trialCall "05aa" "retrieve" none⟩ ∈ sends "05aa" trialArrivals :=
      mem_sends_iff.2 ⟨0, List.mem_cons_self ..⟩
    have stayed : ¬ Cancelled 50 trialArrivals "05aa" 0 := by
      rintro ⟨before, t, after, form, -⟩
      have isCancel : (t, Event.cancel 0 "05aa") ∈ trialArrivals := by
        rw [form]
        exact List.mem_append_right _ (List.mem_cons_self ..)
      simp [trialArrivals] at isCancel
    obtain ⟨b, mem, key, -, yields⟩ := served 40 "05aa" _ received stayed
    exact ⟨b, mem, key, yields⟩
  · exact together 50 trialCalls (by decide +kernel)

end Batching
end OnionSwarm

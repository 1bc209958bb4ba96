/-
What each event does to the batches that wait.

The batches are looked at through `get?`, by their keys.  A request that comes or leaves touches the
batch of its own key; when batches are handed over, those that are due disappear and the others are
not touched.  The timer and the end are the same event here, with another notion of what is due.
-/
import Mathlib.Tactic.Common
import OnionSwarm.Batch.Gather

namespace OnionSwarm.Batch.Waiting

variable {Request : Type}

/-! ### Coming and leaving -/

/-- A batch with one more request, or a new one. -/
def joined (window now : Nat) (m : Member Request) : Option (Pending Request) → Pending Request
  | some batch => { batch with members := batch.members ++ [m] }
  | none => ⟨[m], now + window⟩

theorem get?_join (window now : Nat) (w : Waiting Request) (key : String) (m : Member Request)
    (k : String) :
    (w.join window now key m).get? k
      = if k = key then some (joined window now m (w.get? key)) else w.get? k := by
  rw [join]
  cases w.get? key with
  | none => rw [Table.get?_insert, joined]
  | some batch => rw [Table.get?_insert, joined]

/-- A batch without the request of some number; none if no request is left. -/
def without (id : Nat) (batch : Pending Request) : Option (Pending Request) :=
  match batch.members.filter (·.id != id) with
  | [] => none
  | members => some { batch with members }

theorem without_of_nil {id : Nat} {batch : Pending Request}
    (empty : batch.members.filter (·.id != id) = []) : without id batch = none := by
  rw [without, empty]

theorem without_of_ne_nil {id : Nat} {batch : Pending Request}
    (some_ : batch.members.filter (·.id != id) ≠ []) :
    without id batch = some { batch with members := batch.members.filter (·.id != id) } := by
  unfold without
  split
  · contradiction
  · rfl

theorem without_eq_some_iff {id : Nat} {batch left : Pending Request} :
    without id batch = some left ↔ left.deadline = batch.deadline ∧ left.members ≠ [] ∧
      left.members = batch.members.filter (·.id != id) := by
  by_cases empty : batch.members.filter (·.id != id) = []
  · rw [without_of_nil empty, empty]
    simp
  · rw [without_of_ne_nil empty]
    constructor
    · rintro ⟨rfl⟩
      exact ⟨rfl, empty, rfl⟩
    · rintro ⟨deadline, -, members⟩
      rw [← deadline, ← members]

theorem get?_leave (w : Waiting Request) (key : String) (id : Nat) (k : String) :
    (w.leave key id).get? k
      = if k = key then (w.get? key).bind (without id) else w.get? k := by
  cases found : w.get? key with
  | none =>
    have same : w.leave key id = w := by
      rw [leave, found]
    rw [same, Option.bind_none]
    by_cases own : k = key
    · rw [if_pos own, own, found]
    · rw [if_neg own]
  | some batch =>
    rw [Option.bind_some]
    by_cases empty : batch.members.filter (·.id != id) = []
    · have erased : w.leave key id = w.erase key := by
        simp only [leave, found, empty]
      rw [erased, Table.get?_erase, without_of_nil empty]
    · have kept : w.leave key id
          = w.insert key { batch with members := batch.members.filter (·.id != id) } := by
        simp only [leave, found]
      rw [kept, Table.get?_insert, without_of_ne_nil empty]

/-! ### Handing over -/

/-- The batches that are due, and no others, are handed over; the rest goes on waiting. -/
structure HandsOver (due : Pending Request → Bool) (w : Waiting Request)
    (handed : List (Handed Request)) (left : Waiting Request) : Prop where
  /-- No batch is handed over twice. -/
  once : (handed.map Handed.key).Nodup
  /-- What is handed over are the batches that are due, as they were. -/
  mem_iff : ∀ h, h ∈ handed ↔
    ∃ batch, w.get? h.key = some batch ∧ due batch = true ∧ batch.members = h.members
  /-- What goes on waiting are the others, as they were. -/
  left : ∀ k, left.get? k = (w.get? k).filter fun batch => !due batch

theorem handsOver_filter (due : Pending Request → Bool) (w : Waiting Request)
    (nodup : ((w.entries.filter fun e => !due e.2).map Prod.fst).Nodup) :
    HandsOver due w ((w.entries.filter fun e => due e.2).map fun e => ⟨e.1, e.2.members⟩)
      ⟨w.entries.filter fun e => !due e.2, nodup⟩ := by
  refine ⟨?_, ?_, ?_⟩
  · have keys : ((w.entries.filter fun e => due e.2).map fun e =>
        (⟨e.1, e.2.members⟩ : Handed Request)).map Handed.key
        = (w.entries.filter fun e => due e.2).map Prod.fst := by
      rw [List.map_map]
      rfl
    -- no key stands twice in the table, so none does among those that are due
    rw [keys]
    exact w.nodup.sublist (List.filter_sublist.map _)
  · intro h
    simp only [List.mem_map, List.mem_filter, Table.get?_eq_some_iff]
    constructor
    · rintro ⟨e, ⟨mem, isDue⟩, rfl⟩
      exact ⟨e.2, mem, isDue, rfl⟩
    · rintro ⟨batch, mem, isDue, same⟩
      exact ⟨(h.key, batch), ⟨mem, isDue⟩, by rw [same]⟩
  · intro k
    refine Option.ext fun batch => ?_
    rw [Table.get?_eq_some_iff, Option.filter_eq_some_iff, Table.get?_eq_some_iff, List.mem_filter]

theorem handsOver_timer (window now : Nat) (w : Waiting Request) :
    HandsOver (fun batch => batch.deadline ≤ now) w (w.step window now .timer).1
      (w.step window now .timer).2 :=
  handsOver_filter (fun batch => batch.deadline ≤ now) w _

theorem handsOver_close (window now : Nat) (w : Waiting Request) :
    HandsOver (fun _ => true) w (w.step window now .close).1 (w.step window now .close).2 := by
  have none : (w.entries.filter fun e => !(fun _ => true) e.2) = [] :=
    List.filter_eq_nil_iff.2 fun e _ => by simp
  have every : (w.entries.filter fun _ => true) = w.entries :=
    List.filter_eq_self.2 fun e _ => rfl
  have all := handsOver_filter (fun _ => true) w (by rw [none]; exact List.nodup_nil)
  simp only [every, none] at all
  exact all

/-! ### A request that waits -/

/-- The request waits in the batch of the key. -/
def Waits (w : Waiting Request) (key : String) (m : Member Request) : Prop :=
  ∃ batch, w.get? key = some batch ∧ m ∈ batch.members

theorem waits_join_iff {window now : Nat} {w : Waiting Request} {key k : String}
    {new m : Member Request} :
    Waits (w.join window now key new) k m ↔ Waits w k m ∨ k = key ∧ m = new := by
  rw [Waits, get?_join]
  by_cases same : k = key
  · subst same
    rw [if_pos rfl]
    cases found : w.get? k with
    | none => simp [Waits, joined, found]
    | some batch => simp [Waits, joined, found]
  · rw [if_neg same]
    simp [Waits, same]

theorem waits_leave_iff {w : Waiting Request} {key k : String} {id : Nat} {m : Member Request} :
    Waits (w.leave key id) k m ↔ Waits w k m ∧ ¬ (k = key ∧ m.id = id) := by
  rw [Waits, get?_leave]
  by_cases same : k = key
  · subst same
    rw [if_pos rfl]
    constructor
    · rintro ⟨left, found, mem⟩
      obtain ⟨batch, before, kept⟩ := Option.bind_eq_some_iff.1 found
      obtain ⟨-, -, members⟩ := without_eq_some_iff.1 kept
      rw [members, List.mem_filter] at mem
      exact ⟨⟨batch, before, mem.1⟩, by simpa using mem.2⟩
    · rintro ⟨⟨batch, before, mem⟩, other⟩
      have stays : m ∈ batch.members.filter (·.id != id) :=
        List.mem_filter.2 ⟨mem, by simpa using other⟩
      refine ⟨⟨batch.members.filter (·.id != id), batch.deadline⟩, ?_, stays⟩
      rw [before, Option.bind_some, without_eq_some_iff]
      exact ⟨rfl, List.ne_nil_of_mem stays, rfl⟩
  · rw [if_neg same]
    simp [Waits, same]

/-- What waited waits on, or was handed over with its key. -/
theorem HandsOver.waits_iff {due : Pending Request → Bool} {w left : Waiting Request}
    {handed : List (Handed Request)} (h : HandsOver due w handed left) {k : String}
    {m : Member Request} :
    Waits w k m ↔ Waits left k m ∨ ∃ b ∈ handed, b.key = k ∧ m ∈ b.members := by
  constructor
  · rintro ⟨batch, found, mem⟩
    by_cases isDue : due batch = true
    · right
      exact ⟨⟨k, batch.members⟩, (h.mem_iff _).2 ⟨batch, found, isDue, rfl⟩, rfl, mem⟩
    · left
      refine ⟨batch, ?_, mem⟩
      rw [h.left, found]
      simp [Option.filter, isDue]
  · rintro (⟨batch, found, mem⟩ | ⟨b, handedOver, rfl, mem⟩)
    · rw [h.left, Option.filter_eq_some_iff] at found
      exact ⟨batch, found.1, mem⟩
    · obtain ⟨batch, found, -, same⟩ := (h.mem_iff b).1 handedOver
      exact ⟨batch, found, same ▸ mem⟩

/-- Nothing waits on under a key that was handed over. -/
theorem HandsOver.not_waits {due : Pending Request → Bool} {w left : Waiting Request}
    {handed : List (Handed Request)} (h : HandsOver due w handed left) {b : Handed Request}
    (mem : b ∈ handed) (m : Member Request) : ¬ Waits left b.key m := by
  rintro ⟨batch, found, -⟩
  obtain ⟨was, before, isDue, -⟩ := (h.mem_iff b).1 mem
  rw [h.left, before, Option.filter_eq_some_iff] at found
  obtain ⟨same, notDue⟩ := found
  rw [← Option.some.inj same, isDue] at notDue
  cases notDue

end OnionSwarm.Batch.Waiting

/-
What the members of a batch are told.

A batch is taken apart twice.  First its members are divided into those that have a form inside a
batch and those that have none; then the answer to the combined call is divided among the former.
The answers are handed out by position, so all depends on the two divisions keeping step.  To see
that they do, the members are put back in their order, each with what it was told (`exists_each`):
a member without a form has its own failure there, and the outcomes of the others, read in order,
are the shares of the answer.

The layer below is given from outside.  It is watched by a diary that is added to the world, in
which each call is entered with its answer.
-/
import OnionSwarm.Batch.Execute
import OnionSwarm.Proofs.Client.Alongside

namespace OnionSwarm.Batch

variable {ω Request Item Answer : Type}

/-! ### Members with and without a form -/

section

variable (rules : Rules Request Item Answer)

/-- The member has a form inside a batch. -/
def passes (m : Member Request) : Bool := (rules.item m.request).toBool

/-- The forms of the members that have one. -/
def forms (members : List (Member Request)) : List Item :=
  members.filterMap fun m => (rules.item m.request).toOption

variable {rules} {m : Member Request}

theorem passes_of_ok {item : Item} (formed : rules.item m.request = .ok item) :
    passes rules m = true := by
  unfold passes
  rw [formed]
  rfl

theorem passes_of_error {e : ApiFailure} (failed : rules.item m.request = .error e) :
    passes rules m = false := by
  unfold passes
  rw [failed]
  rfl

theorem prepare_of_ok {item : Item} (formed : rules.item m.request = .ok item)
    (rest : List (Member Request)) :
    prepare rules (m :: rest)
      = { prepare rules rest with ready := (m, item) :: (prepare rules rest).ready } := by
  simp only [prepare, formed]

theorem prepare_of_error {e : ApiFailure} (failed : rules.item m.request = .error e)
    (rest : List (Member Request)) :
    prepare rules (m :: rest)
      = { prepare rules rest with rejected := (m.id, .error e) :: (prepare rules rest).rejected } := by
  simp only [prepare, failed]

variable (rules)

/-- The members that are ready are those that have a form, in their order. -/
theorem ready_prepare (members : List (Member Request)) :
    (prepare rules members).ready.map Prod.fst = members.filter (passes rules) ∧
      (prepare rules members).ready.map Prod.snd = forms rules members := by
  induction members with
  | nil => exact ⟨rfl, rfl⟩
  | cons m rest ih =>
    obtain ⟨passing, formed⟩ := ih
    cases item : rules.item m.request with
    | error e =>
      rw [prepare_of_error item, List.filter_cons_of_neg (by simp [passes_of_error item]), forms,
        List.filterMap_cons_none (by rw [item]; rfl)]
      exact ⟨passing, formed⟩
    | ok form =>
      rw [prepare_of_ok item, List.filter_cons_of_pos (passes_of_ok item), forms,
        List.filterMap_cons_some (by rw [item]; rfl)]
      exact ⟨congrArg (m :: ·) passing, congrArg (form :: ·) formed⟩

/-! ### Back in their order -/

/-- If there is a share for each member that is ready, the members can be put back in their order,
each with what it was told. -/
theorem exists_each (members : List (Member Request)) {shares : List (Except ApiFailure Answer)}
    (enough : shares.length = (prepare rules members).ready.length) :
    ∃ each : List (Member Request × Except ApiFailure Answer),
      each.map Prod.fst = members ∧
      (∀ r ∈ each, ∀ e, rules.item r.1.request = .error e → r.2 = .error e) ∧
      (each.filter fun r => passes rules r.1).map Prod.snd = shares ∧
      ((prepare rules members).rejected ++
        ((prepare rules members).ready.map (·.1.id)).zip shares).Perm
          (each.map fun r => (r.1.id, r.2)) := by
  induction members generalizing shares with
  | nil =>
    obtain rfl := List.length_eq_zero_iff.1 enough
    exact ⟨[], rfl, nofun, rfl, .refl _⟩
  | cons m rest ih =>
    -- a member without a form takes no share, and any other takes the first that is left
    cases item : rules.item m.request with
    | error e =>
      rw [prepare_of_error item] at enough ⊢
      obtain ⟨each, order, refused, own, told⟩ := ih enough
      refine ⟨(m, .error e) :: each, congrArg (m :: ·) order, ?_, ?_, told.cons _⟩
      · intro r mem e' failed
        rcases List.mem_cons.1 mem with rfl | later
        · exact congrArg Except.error (Except.error.inj (item.symm.trans failed))
        · exact refused r later e' failed
      · rw [List.filter_cons_of_neg (by simp [passes_of_error item])]
        exact own
    | ok form =>
      rw [prepare_of_ok item] at enough ⊢
      cases shares with
      | nil => cases enough
      | cons share more =>
        obtain ⟨each, order, refused, own, told⟩ := ih (Nat.succ.inj enough)
        refine ⟨(m, share) :: each, congrArg (m :: ·) order, ?_, ?_, ?_⟩
        · intro r mem e failed
          rcases List.mem_cons.1 mem with rfl | later
          · cases item.symm.trans failed
          · exact refused r later e failed
        · rw [List.filter_cons_of_pos (by exact passes_of_ok item)]
          exact congrArg (share :: ·) own
        · exact List.perm_middle.trans (told.cons (m.id, share))

end

/-! ### The shares of the answer -/

/-- What the members that passed are told, one after another, if the combined call was answered in
some way. -/
inductive Shares (rules : Rules Request Item Answer) (count : Nat) :
    Except ApiFailure Answer → List (Except ApiFailure Answer) → Prop
  /-- The answer has a part for each of them. -/
  | each {answer : Answer} {results : List (Except ApiFailure Answer)}
    (split : rules.split answer = .ok results) (enough : results.length = count) :
    Shares rules count (.ok answer) results
  /-- It has too few or too many parts. -/
  | mismatch {answer : Answer} {results : List (Except ApiFailure Answer)}
    (split : rules.split answer = .ok results) (other : results.length ≠ count) :
    Shares rules count (.ok answer) (List.replicate count (.error (.batch
      ("batch response has " ++ toString results.length ++ " results for " ++ toString count
        ++ " requests"))))
  /-- It cannot be taken apart. -/
  | whole {answer : Answer} {e : ApiFailure} (split : rules.split answer = .error e) :
    Shares rules count (.ok answer) (List.replicate count (.error e))
  /-- The call failed. -/
  | failed (e : ApiFailure) : Shares rules count (.error e) (List.replicate count (.error e))

variable {rules : Rules Request Item Answer}

theorem Shares.length {count : Nat} {answer : Except ApiFailure Answer}
    {shares : List (Except ApiFailure Answer)} (are : Shares rules count answer shares) :
    shares.length = count := by
  cases are with
  | each _ enough => exact enough
  | mismatch => exact List.length_replicate
  | whole => exact List.length_replicate
  | failed => exact List.length_replicate

theorem map_pair_eq_zip {ids : List Nat} (told : Except ApiFailure Answer) :
    (ids.map fun id => (id, told)) = ids.zip (List.replicate ids.length told) := by
  induction ids with
  | nil => rfl
  | cons id rest ih => exact congrArg ((id, told) :: ·) ih

/-- The answer is distributed as shares. -/
theorem exists_shares (rules : Rules Request Item Answer) (p : Prepared Request Item Answer)
    (answer : Except ApiFailure Answer) :
    ∃ shares, Shares rules p.ready.length answer shares ∧
      p.distribute rules answer = (p.ready.map (·.1.id)).zip shares := by
  have alike (told : Except ApiFailure Answer) :
      ((p.ready.map (·.1.id)).map fun id => (id, told))
        = (p.ready.map (·.1.id)).zip (List.replicate p.ready.length told) := by
    rw [map_pair_eq_zip, List.length_map]
  cases answer with
  | error e => exact ⟨_, .failed e, alike _⟩
  | ok answer =>
    cases split : rules.split answer with
    | error e =>
      refine ⟨_, .whole split, ?_⟩
      simp only [Prepared.distribute, Prepared.parts, split]
      exact alike _
    | ok results =>
      by_cases enough : results.length = p.ready.length
      · refine ⟨results, .each split enough, ?_⟩
        simp only [Prepared.distribute, Prepared.parts, split, enough, if_true]
      · refine ⟨_, .mismatch split enough, ?_⟩
        simp only [Prepared.distribute, Prepared.parts, split, enough, if_false]
        exact alike _

/-! ### Watched calls -/

/-- Calls to the layer below, each with its answer. -/
abbrev Calls (Request Answer : Type) := List (Request × Except ApiFailure Answer)

/-- A layer whose calls are entered, each with its answer. -/
def watched (inner : Request → Work ω (Except ApiFailure Answer)) :
    Request → Work (ω × Calls Request Answer) (Except ApiFailure Answer) := fun request => do
  let answer ← Work.alongside (inner request)
  .ofAction (Act.ofOutside (modify fun w => (w.1, w.2 ++ [(request, answer)])))
  return answer

theorem enters_watched (inner : Request → Work ω (Except ApiFailure Answer)) (request : Request) :
    (watched inner request).Enters Client.extra
      fun answer entered => entered = [(request, answer)] := by
  refine (Work.enters_alongside (inner request)).bind ?_
  rintro answer _ rfl
  refine (Job.enters_ofAction (p := fun _ entered => entered = [(request, answer)])
    fun _ => ⟨_, rfl, rfl⟩).bind ?_
  rintro _ _ rfl
  exact Job.enters_pure rfl

/-- To watch a layer changes nothing. -/
theorem coversJob_watched (inner : Request → Work ω (Except ApiFailure Answer))
    (request : Request) : Work.CoversJob (watched inner request) (inner request) :=
  fun c => (Work.covers_aside c.extra (inner request c.plain)).andThen_aside fun _ _ => rfl

/-! ### A batch that is sent -/

/-- A batch was served: its members, each with what it was told, the calls that were made for it,
and the answers that were handed out. -/
structure Served (rules : Rules Request Item Answer) (members : List (Member Request))
    (each : List (Member Request × Except ApiFailure Answer)) (calls : Calls Request Answer)
    (answers : Answers Answer) : Prop where
  /-- Every member is told something, once. -/
  once : each.map Prod.fst = members
  /-- What is handed out is what they are told. -/
  told : answers.Perm (each.map fun r => (r.1.id, r.2))
  /-- A member without a form is told why. -/
  refused : ∀ r ∈ each, ∀ e, rules.item r.1.request = .error e → r.2 = .error e
  /-- If no member has a form, nothing is sent. -/
  silent : members.filter (passes rules) = [] → calls = []
  /-- Otherwise one call is made, from the first of the others and the forms of all of them, and they
  are told their shares of its answer. -/
  shared : ∀ first rest, members.filter (passes rules) = first :: rest →
    ∃ answer, calls = [(rules.combine first.request (forms rules members), answer)] ∧
      Shares rules (rest.length + 1) answer
        ((each.filter fun r => passes rules r.1).map Prod.snd)

theorem enters_execute (rules : Rules Request Item Answer)
    (inner : Request → Work ω (Except ApiFailure Answer)) (members : List (Member Request)) :
    (execute rules (watched inner) members).Enters Client.extra
      fun answers calls => ∃ each, Served rules members each calls answers := by
  obtain ⟨passing, formed⟩ := ready_prepare rules members
  unfold execute
  cases ready : (prepare rules members).ready with
  | nil =>
    rw [ready] at passing
    obtain ⟨each, once, refused, -, told⟩ :=
      exists_each rules members (by rw [ready]; exact List.length_nil)
    rw [ready, List.map_nil, List.zip_nil_left, List.append_nil] at told
    simp only [Prepared.combined?, ready]
    refine Job.enters_pure ⟨each, once, told, refused, fun _ => rfl, ?_⟩
    intro first rest isCons
    rw [← passing] at isCons
    cases isCons
  | cons first rest =>
    rw [ready] at passing
    simp only [Prepared.combined?, ready]
    -- one call for all members with a form, whose answer is shared out
    refine (enters_watched inner _).bind ?_
    rintro answer _ rfl
    obtain ⟨shares, are, handed⟩ := exists_shares rules (prepare rules members) answer
    obtain ⟨each, once, refused, own, told⟩ := exists_each rules members are.length
    rw [← handed] at told
    refine Job.enters_pure ⟨each, once, told, refused, ?_, ?_⟩
    · intro none
      rw [← passing] at none
      cases none
    · intro first' rest' isCons
      rw [← passing] at isCons
      obtain ⟨rfl, rfl⟩ := List.cons.inj isCons
      refine ⟨answer, ?_, ?_⟩
      · rw [← formed, ready]
        rfl
      · rw [own, List.length_map, ← List.length_cons (a := first), ← ready]
        exact are

theorem coversJob_execute (rules : Rules Request Item Answer)
    (inner : Request → Work ω (Except ApiFailure Answer)) (members : List (Member Request)) :
    Work.CoversJob (execute rules (watched inner) members) (execute rules inner members) := by
  unfold execute
  dsimp only
  cases (prepare rules members).combined? rules with
  | none => exact Work.coversJob_pure _
  | some request => exact (coversJob_watched inner request).bind fun _ => Work.coversJob_pure _

/-- The calls that a batch makes. -/
def callsOf (rules : Rules Request Item Answer)
    (inner : Request → Work ω (Except ApiFailure Answer)) (members : List (Member Request))
    (pass : Nat → Act ω Unit) (c : Client ω) : Calls Request Answer :=
  ((execute rules (watched inner) members).run (fun delay => (pass delay).alongside)
    (c.widen [])).2.extra

/-- **Every member of a batch is served, by one call at most.**

Whatever the members, the rules and the layer below: each member is told something exactly once.  A
member that has no form inside a batch is told why, and has no part in the call.  If there are
others, one call is made from the first of them and the forms of all of them, in order; if its answer
has as many parts as there are such members, each is told its own part, and in all other cases all of
them are told of the same failure. -/
theorem members_served (rules : Rules Request Item Answer)
    (inner : Request → Work ω (Except ApiFailure Answer)) (members : List (Member Request))
    (pass : Nat → Act ω Unit) (c : Client ω) :
    ∃ each, Served rules members each (callsOf rules inner members pass c)
      ((execute rules inner members).run pass c).1 := by
  obtain ⟨calls, entered, each, served⟩ := (enters_execute rules inner members).run
    (fun delay c => Act.extra_alongside (pass delay) c) (c.widen [])
  have same := (coversJob_execute rules inner members).run pass (c.widen [])
  rw [Client.plain_widen] at same
  have diary : callsOf rules inner members pass c = calls := entered
  rw [diary, same]
  exact ⟨each, served⟩

/-- Rules for trials: requests are numbers, zero has no form, and what is sent is the sum. -/
def summing : Rules Nat Nat (List Nat) where
  key? _ := some "sum"
  item n := if n = 0 then .error (.malformed "nothing") else .ok n
  combine _ items := items.foldl Nat.add 0
  split answer := .ok (answer.map fun n => .ok [n])

-- a member without a form in the middle does not shift the shares of the others
example : execute (m := Id) summing (fun n => .ok [n, 10]) [⟨1, 5⟩, ⟨2, 0⟩, ⟨3, 7⟩]
    = [(2, .error (.malformed "nothing")), (1, .ok [12]), (3, .ok [10])] := rfl

end OnionSwarm.Batch

/-
A round confirms exactly what was stored.

The objects and the layer below are given to a round from outside, so all that it does is seen by
watching them.  They are watched by a diary that is added to the world: each revision that is taken,
each call that is sent, each answer and each confirmation is entered, with the object that it is
about.  A call itself does not say which object it is for; it is entered under the object whose
revision was the last thing that happened before it was sent.

The pushes of a round wait side by side, in any order.  But the entries of one push are the same in
every order, so the entries about one object can be told from what was answered for that object
alone.
-/
import OnionSwarm.Client.Backup
import OnionSwarm.Proofs.Client.Alongside
import OnionSwarm.Proofs.Onion.Exchange

namespace OnionSwarm

open Backup

variable {ω : Type}

/-! ### A confirmed revision -/

namespace Backup

/-- The result of a call is good. -/
def IsGood (entry : Json) : Prop :=
  ∃ code, entry.get? "code" = some (.nat code) ∧ 200 ≤ code ∧ code < 300

/-- The answer confirms each of some calls, and says under which hash the first of them stored. -/
def Confirms (count : Nat) (answer : Json) (hash : String) : Prop :=
  ∃ results, answer.get? "results" = some (.array results) ∧ results.length = count ∧
    (∀ entry ∈ results, IsGood entry) ∧
    ∃ first body, results.head? = some first ∧ first.get? "body" = some body ∧
      body.get? "hash" = some (.text hash) ∧ hash ≠ ""

/-- The calls that store a revision. -/
def heldCalls (who : Identity) (nspace : Int) (r : Revision) (time : Nat) : List NodeCall :=
  Storage.store who ⟨nspace, r.data, Storage.defaultLifetime⟩ time ::
    if r.obsolete = [] then [] else [Storage.delete who r.obsolete]

theorem storing_eq (who : Identity) (nspace : Int) (r : Revision) (time : Nat) :
    storing who nspace r time = Storage.sequence (heldCalls who nspace r time) := by
  unfold storing heldCalls
  cases r.obsolete <;> rfl

theorem length_heldCalls (who : Identity) (nspace : Int) (r : Revision) (time : Nat) :
    (heldCalls who nspace r time).length = resultCount r := by
  unfold heldCalls resultCount
  cases r.obsolete <;> rfl

/-- The body of a result; null if there is none. -/
def bodyOf (entry : Json) : Json := (entry.get? "body").getD .null

theorem subResult_eq_ok_iff {entry body : Json} :
    Batch.subResult entry = .ok body ↔ IsGood entry ∧ body = bodyOf entry := by
  unfold Batch.subResult
  constructor
  · intro good
    split at good
    · cases good
    · rename_i code coded
      dsimp only at good
      split at good
      · rename_i success
        obtain ⟨member, -⟩ := Exchange.code?_eq_some_iff.1 coded
        simp only [isSuccess, Bool.and_eq_true, decide_eq_true_eq] at success
        exact ⟨⟨code, member, success⟩, (Except.ok.inj good).symm⟩
      · cases good
  · rintro ⟨⟨code, member, least, most⟩, rfl⟩
    have coded : Exchange.code? entry = some code :=
      Exchange.code?_eq_some_iff.2 ⟨member, by omega⟩
    have success : isSuccess code = true := by simp [isSuccess, least, most]
    simp only [coded, success, if_true]
    rfl

theorem bodies_eq_ok_iff {results found : List Json} :
    bodies results = .ok found ↔
      (∀ entry ∈ results, IsGood entry) ∧ found = results.map bodyOf := by
  induction results generalizing found with
  | nil => simp [bodies, eq_comm]
  | cons entry rest ih =>
    rw [bodies, List.forall_mem_cons, List.map_cons]
    constructor
    · intro good
      split at good
      · cases good
      · rename_i body first
        obtain ⟨isGood, rfl⟩ := subResult_eq_ok_iff.1 first
        split at good
        · cases good
        · rename_i more others
          obtain ⟨areGood, rfl⟩ := ih.1 others
          exact ⟨⟨isGood, areGood⟩, (Except.ok.inj good).symm⟩
    · rintro ⟨⟨isGood, areGood⟩, rfl⟩
      simp only [subResult_eq_ok_iff.2 ⟨isGood, rfl⟩, ih.2 ⟨areGood, rfl⟩]

theorem namedHash?_eq_some_iff {found : List Json} {hash : String} :
    namedHash? found = some hash ↔
      ∃ body, found.head? = some body ∧ body.get? "hash" = some (.text hash) ∧ hash ≠ "" := by
  have named : (found.head?.bind (Json.get? "hash")).bind Json.asText? = some hash ↔
      ∃ body, found.head? = some body ∧ body.get? "hash" = some (.text hash) := by
    simp [Option.bind_eq_some_iff, Json.asText?_eq_some_iff]
  have filled : namedHash? found = some hash ↔
      (found.head?.bind (Json.get? "hash")).bind Json.asText? = some hash ∧ hash ≠ "" := by
    unfold namedHash?
    cases (found.head?.bind (Json.get? "hash")).bind Json.asText? with
    | none => simp
    | some text =>
      simp only [String.isEmpty_iff, Option.ite_none_left_eq_some, Option.some.injEq]
      constructor
      · rintro ⟨filled, rfl⟩
        exact ⟨rfl, filled⟩
      · rintro ⟨rfl, filled⟩
        exact ⟨filled, rfl⟩
  rw [filled, named]
  simp only [← and_assoc, exists_and_right]

/-- The first body names a hash exactly if the first result has such a body. -/
theorem namedHash?_map_bodyOf {results : List Json} {hash : String} :
    namedHash? (results.map bodyOf) = some hash ↔
      ∃ first body, results.head? = some first ∧ first.get? "body" = some body ∧
        body.get? "hash" = some (.text hash) ∧ hash ≠ "" := by
  rw [namedHash?_eq_some_iff]
  cases results with
  | nil => simp
  | cons first rest =>
    simp only [List.map_cons, List.head?_cons, Option.some.injEq, exists_eq_left',
      exists_and_left]
    unfold bodyOf
    cases first.get? "body" with
    | none => simp [Json.get?]
    | some body => simp

/-- The hash of a revision is known exactly if the answer confirms every call. -/
theorem storedHash_eq_ok_iff {object hash : String} {r : Revision} {answer : Json} :
    storedHash object r answer = .ok hash ↔ Confirms (resultCount r) answer hash := by
  unfold storedHash Confirms
  constructor
  · intro isStored
    -- each step of the reading is one of the conditions
    split at isStored
    · cases isStored
    · rename_i results listed
      obtain ⟨v, member, isArray⟩ := Option.bind_eq_some_iff.1 listed
      obtain rfl : v = .array results := by
        cases v <;> cases isArray
        rfl
      split at isStored
      · cases isStored
      · rename_i each
        split at isStored
        · cases isStored
        · rename_i found read
          obtain ⟨areGood, rfl⟩ := bodies_eq_ok_iff.1 read
          split at isStored
          · rename_i text named
            obtain rfl := Except.ok.inj isStored
            exact ⟨results, member, not_not.1 each, areGood, namedHash?_map_bodyOf.1 named⟩
          · cases isStored
  · rintro ⟨results, member, each, areGood, named⟩
    have listed : (answer.get? "results").bind Json.asArray? = some results := by
      rw [member]
      rfl
    simp only [listed, each, ne_eq, not_true, if_false, bodies_eq_ok_iff.2 ⟨areGood, rfl⟩,
      namedHash?_map_bodyOf.2 named]

end Backup

/-! ### Watched objects -/

/-- What is done in a round for an object. -/
inductive Deed where
  | revised (outcome : Except String Revision)
  | sent (call : SwarmCall)
  | answered (answer : Except ApiFailure Json)
  | confirmed (number : Int) (hash : String)

/-- Deeds in their order, each with the place of the object that it is about. -/
abbrev Diary := List (Nat × Deed)

namespace Diary

/-- What was done for one object. -/
def about (diary : Diary) (place : Nat) : List Deed :=
  (diary.filter (·.1 = place)).map Prod.snd

/-- Is it a confirmation? -/
def isConfirmation : Nat × Deed → Bool
  | (_, .confirmed ..) => true
  | _ => false

/-- How many revisions were confirmed. -/
def confirmations (diary : Diary) : Nat := diary.countP isConfirmation

theorem about_map_self (place : Nat) (course : List Deed) :
    about (course.map (place, ·)) place = course := by
  have all : (course.map (place, ·)).filter (·.1 = place) = course.map (place, ·) := by
    simp [List.filter_eq_self]
  rw [about, all, List.map_map]
  exact List.map_id course

theorem about_map_of_ne {place other : Nat} (ne : place ≠ other) (course : List Deed) :
    about (course.map (place, ·)) other = [] := by
  have none : (course.map (place, ·)).filter (·.1 = other) = [] := by
    simp [List.filter_eq_nil_iff, ne]
  rw [about, none, List.map_nil]

/-- What is said nowhere on one side is said on the other. -/
theorem about_of_mixed_left {l r whole : Diary} (mixed : Mixed l r whole) {place : Nat}
    (none : about r place = []) : about whole place = about l place := by
  have own := mixed.filter (·.1 = place)
  rw [List.map_eq_nil_iff.1 none] at own
  exact congrArg (List.map Prod.snd) own.eq_left

theorem about_of_mixed_right {l r whole : Diary} (mixed : Mixed l r whole) {place : Nat}
    (none : about l place = []) : about whole place = about r place := by
  have own := mixed.filter (·.1 = place)
  rw [List.map_eq_nil_iff.1 none] at own
  exact congrArg (List.map Prod.snd) own.eq_right

theorem confirmations_of_mixed {l r whole : Diary} (mixed : Mixed l r whole) :
    confirmations whole = confirmations l + confirmations r := by
  rw [confirmations, mixed.perm.countP_eq, List.countP_append]
  rfl

/-- A deed is entered. -/
def enter (place : Nat) (deed : Deed) : StateM (ω × Diary) Unit :=
  modify fun w => (w.1, w.2 ++ [(place, deed)])

end Diary

open Diary (enter)

/-- An object whose revision and confirmations are entered. -/
def KeptObject.watched (o : KeptObject ω) (place : Nat) : KeptObject (ω × Diary) :=
  { name := o.name
    nspace := o.nspace
    isDirty := fun w => o.isDirty w.1
    revision := do
      let outcome ← outsideAlongside o.revision
      enter place (.revised outcome)
      return outcome
    confirm := fun number hash => do
      outsideAlongside (o.confirm number hash)
      enter place (.confirmed number hash) }

namespace SwarmApi

/-- A layer whose calls and answers are entered under an object. -/
def enteredAt (api : SwarmApi ω) (place : Nat) : SwarmApi (ω × Diary) := fun call => do
  .ofAction (Act.ofOutside (enter place (.sent call)))
  let answer ← Work.alongside (api call)
  .ofAction (Act.ofOutside (enter place (.answered answer)))
  return answer

/-- A layer whose calls and answers are entered, under the object of the last entry. -/
def watched (api : SwarmApi ω) : SwarmApi (ω × Diary) := fun call c =>
  enteredAt api ((c.extra.getLast?.map Prod.fst).getD 0) call c

end SwarmApi

namespace ObjectBackup

/-- The same objects, all of them watched. -/
def watched (b : ObjectBackup ω) : ObjectBackup (ω × Diary) :=
  { who := b.who
    objects := b.objects.zipIdx.map fun e => e.1.watched e.2
    swarms := b.swarms.alongside
    api := SwarmApi.watched b.api
    now := b.now.alongside }

/-- The objects that have changed, each with its place. -/
def changed (b : ObjectBackup ω) (outside : ω) : List (KeptObject ω × Nat) :=
  b.objects.zipIdx.filter fun e => e.1.isDirty outside

/-- The one request that stores a revision. -/
def request (who : Identity) (target : Node) (nspace : Int) (r : Revision) (time : Nat) :
    SwarmCall :=
  ⟨who.account, Storage.sequence (heldCalls who nspace r time), some target⟩

/-- All that is done for an object that has changed, and whether its revision is stored. -/
inductive Course (who : Identity) (target : Node) (nspace : Int) : Bool → List Deed → Prop
  /-- There is no revision, and nothing is sent. -/
  | unrevised (reason : String) : Course who target nspace false [.revised (.error reason)]
  /-- The request fails. -/
  | failed (r : Revision) (time : Nat) (e : ApiFailure) :
      Course who target nspace false
        [.revised (.ok r), .sent (request who target nspace r time), .answered (.error e)]
  /-- The answer does not confirm every call of the request. -/
  | rejected {r : Revision} {time : Nat} {answer : Json}
      (bad : ∀ hash, ¬ Confirms (heldCalls who nspace r time).length answer hash) :
      Course who target nspace false
        [.revised (.ok r), .sent (request who target nspace r time), .answered (.ok answer)]
  /-- The answer confirms every call, and names the hash. -/
  | stored {r : Revision} {time : Nat} {answer : Json} {hash : String}
      (good : Confirms (heldCalls who nspace r time).length answer hash) :
      Course who target nspace true
        [.revised (.ok r), .sent (request who target nspace r time), .answered (.ok answer),
          .confirmed r.number hash]

/-- A push has some result, and enters some deeds of the object at a place. -/
def Pushed (who : Identity) (target : Node) (e : KeptObject ω × Nat)
    (result : Except BackupFailure Unit) (entered : Diary) : Prop :=
  ∃ course, Course who target e.1.nspace result.toBool course ∧ entered = course.map (e.2, ·)

/-! ### One push -/

variable {b : ObjectBackup ω}

theorem enters_enter (place : Nat) (deed : Deed) :
    (Job.ofAction (Act.ofOutside (enter place deed) : Act (ω × Diary) Unit)).Enters Client.extra
      fun _ entered => entered = [(place, deed)] :=
  Job.enters_ofAction fun _ => ⟨[(place, deed)], rfl, rfl⟩

/-- A call that follows an entry about an object is entered under it, and so is the answer. -/
theorem enters_api (api : SwarmApi ω) (call : SwarmCall) {place : Nat} {deed : Deed}
    {c : Client (ω × Diary)} {before : Diary} (last : c.extra = before ++ [(place, deed)]) :
    (SwarmApi.watched api call c).Enters Client.extra
      (fun answer entered => entered = [(place, .sent call), (place, .answered answer)])
      c.extra := by
  have named : (c.extra.getLast?.map Prod.fst).getD 0 = place := by
    rw [last, List.getLast?_concat]
    rfl
  rw [SwarmApi.watched, named]
  refine (enters_enter place (.sent call)).bind ?_ c
  rintro _ _ rfl
  refine (Work.enters_alongside (api call)).bind ?_
  rintro answer _ rfl
  refine (enters_enter place (.answered answer)).bind ?_
  rintro _ _ rfl
  exact Job.enters_pure rfl

theorem exists_revision_watched (o : KeptObject ω) (place : Nat) (c : Client (ω × Diary)) :
    ∃ outcome left, Act.ofOutside (o.watched place).revision c = (outcome, left) ∧
      left.extra = c.extra ++ [(place, .revised outcome)] :=
  ⟨_, _, rfl, rfl⟩

theorem exists_now_watched (b : ObjectBackup ω) (c : Client (ω × Diary)) :
    ∃ time left, b.watched.now c = (time, left) ∧ left.extra = c.extra :=
  ⟨_, _, rfl, rfl⟩

theorem enters_confirm (o : KeptObject ω) (place : Nat) (number : Int) (hash : String) :
    (Job.ofAction (Act.ofOutside ((o.watched place).confirm number hash))).Enters Client.extra
      fun _ entered => entered = [(place, .confirmed number hash)] :=
  Job.enters_ofAction fun _ => ⟨[(place, .confirmed number hash)], rfl, rfl⟩

/-- Whatever an object's revision, its call and its confirmation come to, the entries of its push are
one of the four courses. -/
theorem enters_push (b : ObjectBackup ω) (target : Node) (o : KeptObject ω) (place : Nat) :
    (b.watched.push target (o.watched place)).Enters Client.extra
      (Pushed b.who target (o, place)) := by
  intro c
  obtain ⟨outcome, revised, took, entered⟩ := exists_revision_watched o place c
  refine Job.enters_action_bind took [(place, .revised outcome)] entered ?_
  cases outcome with
  | error reason => exact Job.enters_pure ⟨_, .unrevised reason, rfl⟩ revised
  | ok r =>
    -- the time is read and the call is made before anybody else goes on
    obtain ⟨time, begun, read, silent⟩ := exists_now_watched b revised
    refine Job.enters_action_bind read [] (by rw [silent, List.append_nil]) ?_
    rw [← silent] at entered
    have blind (c : Client (ω × Diary)) (notes : CallNotes) :
        Client.extra { c with notes } = c.extra := rfl
    have called : (Work.apart (SwarmApi.watched b.api (request b.who target o.nspace r time))
        begun).Enters Client.extra (fun answer entered => entered =
          [(place, .sent (request b.who target o.nspace r time)), (place, .answered answer)])
        begun.extra :=
      Work.enters_apart blind (enters_api (c := { begun with notes := .empty }) b.api _ entered)
    rw [request, ← storing_eq] at called
    refine Job.enters_bind_at called ?_
    rintro answer _ rfl
    rw [storing_eq]
    cases answer with
    | error e => exact Job.enters_pure ⟨_, .failed r time e, rfl⟩
    | ok answer =>
      dsimp only
      cases read : storedHash (o.watched place).name r answer with
      | error e =>
        refine Job.enters_pure ⟨_, .rejected (fun hash good => ?_), rfl⟩
        rw [length_heldCalls] at good
        rw [storedHash_eq_ok_iff.2 good] at read
        cases read
      | ok hash =>
        refine (enters_confirm o place r.number hash).bind ?_
        rintro _ _ rfl
        have good := storedHash_eq_ok_iff.1 read
        rw [← length_heldCalls b.who o.nspace] at good
        exact Job.enters_pure ⟨_, .stored good, rfl⟩

/-! ### Watching changes nothing -/

theorem coversJob_api (api : SwarmApi ω) (call : SwarmCall) :
    Work.CoversJob (SwarmApi.watched api call) (api call) :=
  fun _ => (Work.covers_aside _ (api call _)).andThen_aside fun _ _ => rfl

theorem coversJob_push (b : ObjectBackup ω) (target : Node) (o : KeptObject ω) (place : Nat) :
    Work.CoversJob (b.watched.push target (o.watched place)) (b.push target o) := by
  refine (Work.coversJob_ofAction fun _ => rfl).bind fun outcome => ?_
  cases outcome with
  | error reason => exact Work.coversJob_pure _
  | ok r =>
    refine (Work.coversJob_ofAction fun _ => rfl).bind fun time => ?_
    refine (coversJob_api b.api _).apart.bind fun answer => ?_
    cases answer with
    | error e => exact Work.coversJob_pure _
    | ok answer =>
      have alike : storedHash (o.watched place).name r answer = storedHash o.name r answer := rfl
      dsimp only
      rw [alike]
      cases storedHash o.name r answer with
      | error e => exact Work.coversJob_pure _
      | ok hash =>
        exact (Work.coversJob_ofAction fun _ => rfl).bind fun _ => Work.coversJob_pure _

/-! ### A round -/

theorem Course.confirmations {who : Identity} {target : Node} {nspace : Int} {stored : Bool}
    {course : List Deed} (path : Course who target nspace stored course) (place : Nat) :
    Diary.confirmations (course.map (place, ·)) = stored.toNat := by
  cases path <;> rfl

theorem report_cons (result : Except BackupFailure Unit) (results : List (Except BackupFailure Unit)) :
    (report (result :: results)).pushed = result.toBool.toNat + (report results).pushed := by
  unfold report
  cases result with
  | error e => simp [Except.toBool]
  | ok u => simp [Except.toBool, Nat.add_comm]

theorem pushed_add_failed (results : List (Except BackupFailure Unit)) :
    (report results).pushed + (report results).failed = results.length :=
  (List.length_eq_length_filter_add Except.toBool).symm

/-- What the pushes of a round come to and what they enter, whatever their order. -/
theorem spec_of_allEnter {who : Identity} {target : Node} {changed : List (KeptObject ω × Nat)}
    {results : List (Except BackupFailure Unit)} {diary : Diary}
    (all : Job.AllEnter (Pushed who target) changed results diary)
    (places : (changed.map Prod.snd).Nodup) :
    (∀ e ∈ changed, ∃ stored, Course who target e.1.nspace stored (diary.about e.2)) ∧
    (∀ place ∉ changed.map Prod.snd, diary.about place = []) ∧
    (report results).pushed = diary.confirmations ∧ results.length = changed.length := by
  induction all with
  | nil => exact ⟨nofun, fun _ _ => rfl, rfl, rfl⟩
  | @cons e result own rest results others whole first _ mixed ih =>
    obtain ⟨course, path, rfl⟩ := first
    rw [List.map_cons, List.nodup_cons] at places
    obtain ⟨courses, none, counted, length⟩ := ih places.2
    refine ⟨?_, ?_, ?_, congrArg Nat.succ length⟩
    · intro f mem
      rcases List.mem_cons.1 mem with rfl | mem
      · rw [Diary.about_of_mixed_left mixed (none f.2 places.1), Diary.about_map_self]
        exact ⟨_, path⟩
      · have other : e.2 ≠ f.2 := fun same => places.1 (same ▸ List.mem_map_of_mem mem)
        rw [Diary.about_of_mixed_right mixed (Diary.about_map_of_ne other course)]
        exact courses f mem
    · intro place absent
      rw [List.map_cons, List.mem_cons, not_or] at absent
      rw [Diary.about_of_mixed_right mixed (Diary.about_map_of_ne (Ne.symm absent.1) course)]
      exact none place absent.2
    · rw [report_cons, counted, Diary.confirmations_of_mixed mixed, path.confirmations e.2]

theorem nodup_changed (b : ObjectBackup ω) (outside : ω) :
    ((b.changed outside).map Prod.snd).Nodup := by
  refine List.Nodup.sublist (List.filter_sublist.map Prod.snd) ?_
  rw [List.zipIdx_map_snd]
  exact List.nodup_range'

theorem dirty_eq (b : ObjectBackup ω) (outside : ω) :
    b.objects.filter (·.isDirty outside) = (b.changed outside).map Prod.fst := by
  have places := List.filter_map (f := Prod.fst) (l := b.objects.zipIdx)
    (p := fun o : KeptObject ω => o.isDirty outside)
  rw [List.zipIdx_map_fst] at places
  exact places

theorem dirty_watched (b : ObjectBackup ω) (w : ω × Diary) :
    b.watched.objects.filter (·.isDirty w) = (b.changed w.1).map fun e => e.1.watched e.2 := by
  rw [watched, List.filter_map]
  rfl

/-- Stores some objects. -/
def pushAll (b : ObjectBackup ω) (dirty : List (KeptObject ω)) :
    Work ω (Except BackupFailure RoundReport) := do
  match ← b.swarms.target b.who.account with
  | .error e => return .error (.noTarget e)
  | .ok target => return .ok (report (← Job.together (dirty.map (b.push target))))

theorem look_first {σ α : Type} (next : σ → Job σ α) (s : σ) : (get >>= next) s = next s s := rfl

/-- A round begins with a look at the objects. -/
theorem pushPending_apply (b : ObjectBackup ω) (c : Client ω) :
    b.pushPending c =
      if b.objects.filter (·.isDirty c.outside) = [] then .done (.ok ⟨0, 0⟩) c
      else b.pushAll (b.objects.filter (·.isDirty c.outside)) c := by
  rw [pushPending, look_first]
  cases b.objects.filter (·.isDirty c.outside) with
  | nil => rfl
  | cons first rest =>
    rw [if_neg (List.cons_ne_nil _ _)]
    rfl

theorem run_pushAll (b : ObjectBackup ω) (dirty : List (KeptObject ω)) (pass : Nat → Act ω Unit)
    (c : Client ω) :
    (b.pushAll dirty).run pass c =
      match (b.swarms.target b.who.account).run pass c with
      | (.error e, left) => (.error (.noTarget e), left)
      | (.ok target, left) =>
        let ended := (Job.together (dirty.map (b.push target))).run pass left
        (.ok (report ended.1), ended.2) := by
  unfold pushAll
  rw [Job.run_bind, Act.bind_apply]
  cases (b.swarms.target b.who.account).run pass c with
  | mk found left =>
    cases found with
    | error e => rfl
    | ok target =>
      dsimp only
      rw [Job.run_bind]
      rfl

theorem target_watched (b : ObjectBackup ω) :
    b.watched.swarms.target b.watched.who.account
      = Work.alongside (τ := Diary) (b.swarms.target b.who.account) :=
  SwarmSource.target_alongside b.swarms b.who.account

/-- A watched round is a round. -/
theorem coversJob_pushPending (b : ObjectBackup ω) :
    Work.CoversJob b.watched.pushPending b.pushPending := by
  intro c
  rw [pushPending_apply, pushPending_apply, dirty_watched, dirty_eq]
  have same : b.changed c.plain.outside = b.changed c.outside.1 := rfl
  rw [same]
  by_cases none : b.changed c.outside.1 = []
  · rw [none, List.map_nil, List.map_nil, if_pos rfl, if_pos rfl]
    rfl
  · rw [if_neg (by rwa [List.map_eq_nil_iff]), if_neg (by rwa [List.map_eq_nil_iff])]
    -- the target is found and the objects are pushed as without the diary
    have asked : Work.CoversJob (b.watched.swarms.target b.watched.who.account)
        (b.swarms.target b.who.account) := by
      rw [target_watched]
      exact Work.coversJob_alongside _
    refine asked.bind (fun found => ?_) c
    cases found with
    | error e => exact Work.coversJob_pure _
    | ok target =>
      have pushes : Work.CoversJob
          (Job.together (((b.changed c.outside.1).map fun e => e.1.watched e.2).map
            (b.watched.push target)))
          (Job.together (((b.changed c.outside.1).map Prod.fst).map (b.push target))) := by
        rw [List.map_map, List.map_map]
        exact Work.coversJob_together
          (fun e : KeptObject ω × Nat => b.coversJob_push target e.1 e.2) _
      exact pushes.bind fun _ => Work.coversJob_pure _

/-- The diary of a round. -/
def diaryOf (b : ObjectBackup ω) (pass : Nat → Act ω Unit) (c : Client ω) : Diary :=
  (b.watched.pushPending.run (fun delay => (pass delay).alongside) (c.widen [])).2.extra

/-- A round that is watched comes to the same as one that is not. -/
theorem run_watched (b : ObjectBackup ω) (pass : Nat → Act ω Unit) (c : Client ω) :
    b.watched.pushPending.run (fun delay => (pass delay).alongside) (c.widen [])
      = ((b.pushPending.run pass c).1, (b.pushPending.run pass c).2.widen (b.diaryOf pass c)) := by
  have same := b.coversJob_pushPending.run pass (c.widen [])
  rw [Client.plain_widen] at same
  rw [same]
  rfl

/-- A watched round asks for its target like a round, and enters nothing by that. -/
theorem run_target_watched (b : ObjectBackup ω) (pass : Nat → Act ω Unit) (c : Client ω) :
    (b.watched.swarms.target b.watched.who.account).run (fun delay => (pass delay).alongside)
        (c.widen ([] : Diary))
      = (((b.swarms.target b.who.account).run pass c).1,
          ((b.swarms.target b.who.account).run pass c).2.widen []) := by
  rw [target_watched, Work.run_alongside]
  rfl

/-- The pushes of a round enter their courses, each at the place of its object. -/
theorem enters_pushes (b : ObjectBackup ω) (target : Node) (changed : List (KeptObject ω × Nat)) :
    (Job.together ((changed.map fun e => e.1.watched e.2).map (b.watched.push target))).Enters
      Client.extra (Job.AllEnter (Pushed b.who target) changed) := by
  rw [List.map_map]
  exact Job.enters_together changed fun e _ => enters_push b target e.1 e.2

/-- **A round confirms exactly what was stored.**

If no object has changed, or the swarm has no target, nothing is sent and nothing confirmed.
Otherwise the deeds for each object that has changed are those of one of the four courses: if there
is a revision it is sent with one request, to the same node as all others, and it is confirmed, under
its own number and the hash in its own answer, exactly if the answer confirms every call that the
request holds.  Nothing is done for other objects. -/
theorem round_confirms_stored (b : ObjectBackup ω) (pass : Nat → Act ω Unit) (c : Client ω) :
    let outcome := (b.pushPending.run pass c).1
    let diary := b.diaryOf pass c
    let changed := b.changed c.outside
    (changed = [] → b.pushPending.run pass c = (.ok ⟨0, 0⟩, c) ∧ diary = []) ∧
    (changed ≠ [] →
      match ((b.swarms.target b.who.account).run pass c).1 with
      | .error e => outcome = .error (.noTarget e) ∧ diary = []
      | .ok target =>
        (∀ o place, (o, place) ∈ changed →
          ∃ stored, Course b.who target o.nspace stored (diary.about place)) ∧
        (∀ place, (∀ o, (o, place) ∉ changed) → diary.about place = []) ∧
        ∃ report, outcome = .ok report ∧ report.pushed = diary.confirmations ∧
          report.pushed + report.failed = changed.length) := by
  intro outcome diary changed
  have watching := b.run_watched pass c
  rw [Job.run, pushPending_apply, dirty_watched] at watching
  have same : b.changed (c.widen ([] : Diary)).outside.1 = changed := rfl
  rw [same] at watching
  refine ⟨fun none => ?_, fun some => ?_⟩
  · rw [none, List.map_nil, if_pos rfl] at watching
    obtain ⟨told, left⟩ := Prod.mk.inj watching
    have bare := congrArg Client.plain left
    rw [Client.plain_widen, Client.plain_widen] at bare
    exact ⟨Prod.ext told.symm bare.symm, (congrArg Client.extra left).symm⟩
  · rw [if_neg (by rwa [List.map_eq_nil_iff])] at watching
    -- the round of the watched objects is this one, and its entries are the diary
    have made := run_pushAll b.watched (changed.map fun e => e.1.watched e.2)
      (fun delay => (pass delay).alongside) (c.widen [])
    rw [run_target_watched, Job.run, watching] at made
    cases found : (b.swarms.target b.who.account).run pass c with
    | mk answer left =>
      rw [found] at made
      cases answer with
      | error e =>
        obtain ⟨told, kept⟩ := Prod.mk.inj made
        exact ⟨told, congrArg Client.extra kept⟩
      | ok target =>
        obtain ⟨told, kept⟩ := Prod.mk.inj made
        obtain ⟨entered, whole, all⟩ := (b.enters_pushes target changed).run
          (fun delay c => Act.extra_alongside (pass delay) c) (left.widen [])
        have isDiary : diary = entered := (congrArg Client.extra kept).trans whole
        obtain ⟨courses, none, counted, length⟩ := spec_of_allEnter all (b.nodup_changed c.outside)
        rw [isDiary]
        refine ⟨fun o place mem => courses (o, place) mem, fun place absent => none place ?_,
          _, told, counted, (pushed_add_failed _).trans length⟩
        intro mem
        obtain ⟨e, isChanged, rfl⟩ := List.mem_map.1 mem
        exact absent e.1 isChanged

end ObjectBackup
end OnionSwarm

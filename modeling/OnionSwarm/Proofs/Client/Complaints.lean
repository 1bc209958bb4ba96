/-
How often a call makes the client look for the network time.

A node may complain of the time of a request.  Whether the client then looks for the network time is
decided by one note, which is set by the first complaint and taken away by the next good reply; the
notes are those of one call, and last through all its attempts.

What is said here of a search for the time is said of a list of what all searches came to, which the
world keeps (`Journal`).  Nothing else is known of the layer below or of the search: whatever they
do, they can be watched in this way (`journal_watched`).
-/
import OnionSwarm.Proofs.Client.Attempts

namespace OnionSwarm

open Retry (Attempt)

variable {ω α τ : Type}

/-- Is a complaint about the time noted? -/
def Client.sawSkew (c : Client ω) : Bool := c.notes.contains .sawSkew

/-- The same client in another world. -/
def Client.within (c : Client ω) (outside : τ) : Client τ :=
  { store := c.store, rounds := c.rounds, guards := c.guards, dice := c.dice, turn := c.turn
    reading := c.reading, lastSync := c.lastSync, notes := c.notes, outside }

namespace NodeApi

/-! ### Searches that are kept count of -/

/-- The world keeps a list of what all searches for the time came to.  Neither a search nor the
layer below has to do with the notes of the call, and the layer below makes no search. -/
structure Journal (rpc : NodeRpc ω) (resync : Act ω Bool) (journal : ω → List Bool) : Prop where
  rpc_notes : ∀ n call, Act.Keeps Client.notes (rpc n call)
  rpc_journal : ∀ n call, Act.Keeps (fun c => journal c.outside) (rpc n call)
  resync_notes : Act.Keeps Client.notes resync
  /-- Each search is entered with what it came to. -/
  resync_journal : ∀ c, journal (resync c).2.outside = journal c.outside ++ [(resync c).1]

/-- An operation in a world that keeps a list besides. -/
def besides (act : Act ω α) : Act (ω × List Bool) α := fun c =>
  let (a, left) := act (c.within c.outside.1)
  (a, left.within (left.outside, c.outside.2))

/-- A search that is entered in the list. -/
def entered (resync : Act ω Bool) : Act (ω × List Bool) Bool := do
  let synced ← besides resync
  modify fun c => { c with outside := (c.outside.1, c.outside.2 ++ [synced]) }
  return synced

theorem keeps_notes_besides {act : Act ω α} (kept : Act.Keeps Client.notes act) :
    Act.Keeps Client.notes (besides act) := fun c => kept (c.within c.outside.1)

/-- Whatever the layer below and the search do, the searches can be kept count of. -/
theorem journal_watched {rpc : NodeRpc ω} {resync : Act ω Bool}
    (below : ∀ n call, Act.Keeps Client.notes (rpc n call))
    (search : Act.Keeps Client.notes resync) :
    Journal (fun n call => besides (rpc n call)) (entered resync) Prod.snd where
  rpc_notes n call := keeps_notes_besides (below n call)
  rpc_journal _ _ _ := rfl
  resync_notes := keeps_notes_besides search
  resync_journal _ := rfl

/-- So can those of the client as a whole. -/
theorem journal_network (n : Network ω) :
    Journal (fun node call => besides (n.rpc node call)) (entered n.clock.resync) Prod.snd :=
  journal_watched (fun node call => (n.errands_rpc node call).keeps_notes)
    n.errands_resync.keeps_notes

/-! ### One call to a node -/

/-- What is made of a reply, or of a failure of the layer below. -/
inductive Handles (journal : ω → List Bool) (found left : Client ω) :
    Except ApiFailure OnionReply → Except ApiFailure Json → Prop
  /-- A good reply takes the note away.  It may be unreadable, but is not asked for again. -/
  | replied {reply : OnionReply} {result : Except ApiFailure Json} (calm : left.sawSkew = false)
      (kept : journal left.outside = journal found.outside)
      (final : ∀ failure, result = .error failure → ∃ reason, failure = .malformed reason) :
      Handles journal found left (.ok reply) result
  /-- The first complaint is noted, and the time is looked for. -/
  | first {failure : ApiFailure} (synced : Bool) (skew : isSkew failure = true)
      (before : found.sawSkew = false) (noted : left.sawSkew = true)
      (searched : journal left.outside = journal found.outside ++ [synced]) :
      Handles journal found left (.error failure)
        (.error (failure.withDecision (if synced then .retry else .fail)))
  /-- The next complaint is final. -/
  | again {failure : ApiFailure} (skew : isSkew failure = true) (before : found.sawSkew = true)
      (noted : left.sawSkew = true) (kept : journal left.outside = journal found.outside) :
      Handles journal found left (.error failure) (.error (failure.withDecision .fail))
  /-- Another failure leaves the note as it was. -/
  | other {failure told : ApiFailure} (calm : isSkew failure = false) (told_calm : isSkew told = false)
      (same : left.sawSkew = found.sawSkew)
      (kept : journal left.outside = journal found.outside) :
      Handles journal found left (.error failure) (.error told)

/-- What is made of an answer depends on what is found only in the note and the list. -/
theorem Handles.of_found {journal : ω → List Bool} {found c left : Client ω}
    {outcome : Except ApiFailure OnionReply} {result : Except ApiFailure Json}
    (handles : Handles journal found left outcome result) (seen : found.sawSkew = c.sawSkew)
    (same : journal found.outside = journal c.outside) : Handles journal c left outcome result := by
  cases handles with
  | replied calm kept final => exact .replied calm (kept.trans same) final
  | first synced skew before noted searched =>
    exact .first synced skew (seen.symm.trans before) noted (searched.trans (by rw [same]))
  | again skew before noted kept => exact .again skew (seen.symm.trans before) noted (kept.trans same)
  | other calm told_calm left kept => exact .other calm told_calm (left.trans seen) (kept.trans same)

/-- A failure that is no complaint about the time keeps notes and world. -/
theorem keeps_onFailure_of_calm (resync : Act ω Bool) (drops : Bool) (node : Node)
    {failure : ApiFailure} (calm : isSkew failure = false) :
    Act.Keeps (fun c => (c.notes, c.outside)) (onFailure resync drops node failure) := by
  unfold onFailure
  rw [if_neg (by rw [calm]; exact Bool.false_ne_true)]
  have dropped := (Paths.keeps_others_dropKey (ω := ω) node.key).part
    fun others => (others.2.2.2.2.1, others.2.2.2.2.2)
  exact .ite (dropped.bind fun _ => .pure _) (.pure _)

variable {rpc : NodeRpc ω} {resync : Act ω Bool} {journal : ω → List Bool}

theorem Journal.handles_failure (watch : Journal rpc resync journal) (drops : Bool) (node : Node)
    (failure : ApiFailure) (c : Client ω) :
    Handles journal c (onFailure resync drops node failure c).2 (.error failure)
      (.error (onFailure resync drops node failure c).1) := by
  cases skew : isSkew failure with
  | true =>
    rw [onFailure_of_isSkew _ _ _ _ skew, ← Client.sawSkew]
    cases seen : c.sawSkew with
    | true =>
      rw [if_pos rfl]
      exact .again skew seen seen rfl
    | false =>
      rw [if_neg Bool.false_ne_true]
      set asked : Client ω := { c with notes := c.notes.set .sawSkew () } with askedIs
      have notes : (resync asked).2.notes = asked.notes := watch.resync_notes asked
      refine .first _ skew seen ?_ (watch.resync_journal asked)
      rw [Client.sawSkew, notes, askedIs, Scratch.contains, Scratch.get?_set]
      rfl
  | false =>
    have kept := keeps_onFailure_of_calm resync drops node skew c
    obtain ⟨notes, outside⟩ := Prod.mk.inj kept
    refine .other skew ?_ (congrArg (·.contains .sawSkew) notes) (congrArg journal outside)
    rw [isSkew_congr (onion?_onFailure resync drops node failure c), skew]

/-- What a call to a node makes of what the layer below answers. -/
theorem Journal.handles (watch : Journal rpc resync journal) (drops : Bool) (node : Node)
    (call : NodeCall) (pass : Nat → Act ω Unit) (c : Client ω) :
    Handles journal c ((send rpc resync drops node call).run pass c).2 (rpc node call c).1
      ((send rpc resync drops node call).run pass c).1 := by
  have notes : (rpc node call c).2.notes = c.notes := watch.rpc_notes node call c
  have kept : journal (rpc node call c).2.outside = journal c.outside := watch.rpc_journal node call c
  rw [run_send]
  cases called : rpc node call c with
  | mk answer c₁ =>
    rw [called] at notes kept
    cases answer with
    | ok reply =>
      refine .replied ?_ kept fun failure failed => ?_
      · rw [Client.sawSkew, Scratch.contains, Scratch.get?_erase, if_pos rfl]
        rfl
      · dsimp only at failed
        cases read : reply.json with
        | ok v =>
          rw [read] at failed
          cases failed
        | error e =>
          rw [read] at failed
          exact ⟨_, (Except.error.inj failed).symm⟩
    | error failure =>
      exact (watch.handles_failure drops node failure c₁).of_found
        (congrArg (·.contains .sawSkew) notes) kept

/-! ### The calls with the notes of one call, one after another -/

/-- A call to a node, with what it finds. -/
structure Sent (ω : Type) where
  node : Node
  call : NodeCall
  found : Client ω

namespace Sent

variable (rpc : NodeRpc ω) (resync : Act ω Bool) (drops : Bool) (s : Sent ω)

/-- What the layer below answers. -/
def outcome : Except ApiFailure OnionReply := (rpc s.node s.call s.found).1

/-- What is made of it. -/
def result : Except ApiFailure Json :=
  ((send rpc resync drops s.node s.call).run (fun _ => pure ()) s.found).1

/-- What the call leaves. -/
def left : Client ω :=
  ((send rpc resync drops s.node s.call).run (fun _ => pure ()) s.found).2

end Sent

/-- Calls with the notes of one call, the last one first.  In between anything may happen, except
that nobody else has to do with its note about complaints; there was none at first. -/
inductive Course (rpc : NodeRpc ω) (resync : Act ω Bool) (drops : Bool) : List (Sent ω) → Prop
  | none : Course rpc resync drops []
  | first {s : Sent ω} (calm : s.found.sawSkew = false) : Course rpc resync drops [s]
  | next {s last : Sent ω} {earlier : List (Sent ω)} (course : Course rpc resync drops (last :: earlier))
      (same : s.found.sawSkew = (last.left rpc resync drops).sawSkew) :
      Course rpc resync drops (s :: last :: earlier)

/-- Among these calls is a complaint about the time with no good reply after it. -/
def ComplainedSince (rpc : NodeRpc ω) (calls : List (Sent ω)) : Prop :=
  ∃ later s earlier, calls = later ++ s :: earlier ∧ Complains (s.outcome rpc) ∧
    ∀ t ∈ later, ∃ failure, t.outcome rpc = .error failure

theorem not_complainedSince_nil : ¬ ComplainedSince rpc [] := by
  rintro ⟨later, s, earlier, form, -⟩
  cases later <;> cases form

theorem complainedSince_cons_iff {s : Sent ω} {earlier : List (Sent ω)} :
    ComplainedSince rpc (s :: earlier)
      ↔ ∃ failure, s.outcome rpc = .error failure ∧
        (isSkew failure = true ∨ ComplainedSince rpc earlier) := by
  constructor
  · rintro ⟨later, t, before, form, ⟨failure, failed, skew⟩, since⟩
    cases later with
    | nil =>
      obtain ⟨rfl, rfl⟩ := List.cons.inj form
      exact ⟨failure, failed, .inl skew⟩
    | cons u later =>
      obtain ⟨rfl, rfl⟩ := List.cons.inj form
      obtain ⟨failure', failed'⟩ := since s List.mem_cons_self
      refine ⟨failure', failed', .inr ⟨later, t, before, rfl, ⟨failure, failed, skew⟩, ?_⟩⟩
      exact fun u mem => since u (List.mem_cons_of_mem s mem)
  · rintro ⟨failure, failed, skew | ⟨later, t, before, rfl, complains, since⟩⟩
    · exact ⟨[], s, earlier, rfl, ⟨failure, failed, skew⟩, fun t mem => nomatch mem⟩
    · refine ⟨s :: later, t, before, rfl, complains, fun u mem => ?_⟩
      obtain rfl | mem := List.mem_cons.1 mem
      · exact ⟨failure, failed⟩
      · exact since u mem

variable {drops : Bool} {s : Sent ω} {earlier : List (Sent ω)}

theorem Journal.handles_sent (watch : Journal rpc resync journal) (drops : Bool) (s : Sent ω) :
    Handles journal s.found (s.left rpc resync drops) (s.outcome rpc) (s.result rpc resync drops) :=
  watch.handles drops s.node s.call _ s.found

/-- What one call does to the note. -/
theorem Handles.sawSkew_iff {found left : Client ω} {outcome : Except ApiFailure OnionReply}
    {result : Except ApiFailure Json} (handles : Handles journal found left outcome result) :
    left.sawSkew = true
      ↔ ∃ failure, outcome = .error failure ∧ (isSkew failure = true ∨ found.sawSkew = true) := by
  cases handles with
  | replied calm => simp [calm]
  | first _ skew _ noted => simp [noted, skew]
  | again skew _ noted => simp [noted, skew]
  | other calm _ same => simp [same, calm]

/-- What is made of a complaint about the time. -/
theorem Handles.of_isSkew {found left : Client ω} {failure : ApiFailure}
    {result : Except ApiFailure Json}
    (handles : Handles journal found left (.error failure) result) (skew : isSkew failure = true) :
    (found.sawSkew = true → journal left.outside = journal found.outside ∧
      result = .error (failure.withDecision .fail)) ∧
    (¬ found.sawSkew = true → ∃ synced,
      journal left.outside = journal found.outside ++ [synced] ∧
      result = .error (failure.withDecision (if synced then .retry else .fail))) := by
  cases handles with
  | first synced _ before _ searched =>
    refine ⟨fun seen => ?_, fun _ => ⟨synced, searched, rfl⟩⟩
    cases before.symm.trans seen
  | again _ before _ kept => exact ⟨fun _ => ⟨kept, rfl⟩, fun unseen => absurd before unseen⟩
  | other calm => cases calm.symm.trans skew

/-- Only a complaint about the time leads to a search. -/
theorem Handles.of_not_complains {found left : Client ω} {outcome : Except ApiFailure OnionReply}
    {result : Except ApiFailure Json} (handles : Handles journal found left outcome result)
    (calm : ¬ Complains outcome) : journal left.outside = journal found.outside := by
  cases handles with
  | replied _ kept => exact kept
  | first _ skew => exact absurd ⟨_, rfl, skew⟩ calm
  | again skew => exact absurd ⟨_, rfl, skew⟩ calm
  | other _ _ _ kept => exact kept

/-- The note tells whether there was a complaint since the last good reply. -/
theorem Course.sawSkew_iff (watch : Journal rpc resync journal)
    (course : Course rpc resync drops (s :: earlier)) :
    s.found.sawSkew = true ↔ ComplainedSince rpc earlier := by
  induction earlier generalizing s with
  | nil =>
    cases course with
    | first calm => simp [calm, not_complainedSince_nil]
  | cons last earlier ih =>
    cases course with
    | next course same =>
      rw [same, (watch.handles_sent drops last).sawSkew_iff, complainedSince_cons_iff]
      simp only [ih course]

/-! ### The attempts of a call -/

/-- How many searches were made from one state to another. -/
def searches (journal : ω → List Bool) (found left : Client ω) : Nat :=
  (journal left.outside).length - (journal found.outside).length

/-- How many complaints a result is. -/
def complaints (result : Except ApiFailure Json) : Nat := if Complains result then 1 else 0

/-- How many searches may still be made with the notes of a call. -/
def budget (c : Client ω) : Nat := if c.sawSkew then 0 else 1

/-- What one attempt makes use of: no more than there is, and one complaint besides.  If another
attempt follows, that has the rest. -/
structure Thrifty (journal : ω → List Bool) (found left : Client ω)
    (result : Except ApiFailure Json) : Prop where
  search : searches journal found left ≤ budget found
  complaint : complaints result ≤ 1
  rest : ∀ failure, result = .error failure → failure.decision ≠ .fail →
    searches journal found left + budget left ≤ budget found ∧
      complaints result + budget left ≤ budget found

theorem complaints_le (result : Except ApiFailure Json) : complaints result ≤ 1 := by
  unfold complaints
  split <;> omega

theorem complaints_of_calm {failure : ApiFailure} (calm : isSkew failure = false) :
    complaints (.error failure) = 0 := by
  refine if_neg ?_
  rintro ⟨other, same, skew⟩
  obtain rfl := Except.error.inj same
  cases calm.symm.trans skew

theorem searches_of_kept {found left : Client ω}
    (kept : journal left.outside = journal found.outside) : searches journal found left = 0 := by
  rw [searches, kept, Nat.sub_self]

theorem Handles.thrifty {found left : Client ω} {outcome : Except ApiFailure OnionReply}
    {result : Except ApiFailure Json} (handles : Handles journal found left outcome result) :
    Thrifty journal found left result := by
  cases handles with
  | replied calm kept final =>
    refine ⟨by rw [searches_of_kept kept]; omega, complaints_le _, fun failure failed again => ?_⟩
    obtain ⟨reason, rfl⟩ := final failure failed
    exact absurd rfl again
  | first synced skew before noted searched =>
    have one : searches journal found left = 1 := by simp [searches, searched]
    have whole : budget found = 1 := by simp [budget, before]
    have spent : budget left = 0 := by simp [budget, noted]
    refine ⟨by omega, complaints_le _, fun _ _ _ => ⟨by omega, ?_⟩⟩
    rw [spent, whole]
    exact complaints_le _
  | again skew before noted kept =>
    refine ⟨by rw [searches_of_kept kept]; omega, complaints_le _, fun failure failed again => ?_⟩
    obtain rfl := Except.error.inj failed
    exact absurd (ApiFailure.decision_withDecision _ _) again
  | other calm told_calm same kept =>
    have rest : budget left = budget found := by rw [budget, budget, same]
    refine ⟨by rw [searches_of_kept kept]; omega, complaints_le _, fun _ _ _ => ⟨?_, ?_⟩⟩
    · rw [searches_of_kept kept, rest, Nat.zero_add]
    · rw [complaints_of_calm told_calm, rest, Nat.zero_add]

/-- The searches of all attempts, each from where it sent its call. -/
def allSearches (journal : ω → List Bool) (begun : Client ω → Client ω)
    (tries : List (Attempt (Client ω) Json)) : Nat :=
  tries.foldr (fun a more => searches journal (begun a.found) a.left + more) 0

/-- The complaints of all attempts. -/
def allComplaints (tries : List (Attempt (Client ω) Json)) : Nat :=
  tries.countP fun a => Complains a.result

theorem allComplaints_cons (a : Attempt (Client ω) Json) (tries : List (Attempt (Client ω) Json)) :
    allComplaints (a :: tries) = complaints a.result + allComplaints tries := by
  unfold allComplaints complaints
  rw [List.countP_cons, Nat.add_comm]
  simp only [decide_eq_true_eq]

theorem allSearches_cons (begun : Client ω → Client ω) (a : Attempt (Client ω) Json)
    (tries : List (Attempt (Client ω) Json)) :
    allSearches journal begun (a :: tries)
      = searches journal (begun a.found) a.left + allSearches journal begun tries := rfl

/-- All attempts together make no more searches than there may still be, and end with one complaint
more at most. -/
theorem thrifty_history {attempt : Act ω (Except ApiFailure Json)} {pause : Act ω Unit}
    {begun : Client ω → Client ω} (unseen : ∀ c, (begun c).sawSkew = c.sawSkew)
    (each : ∀ c, Thrifty journal (begun c) (attempt c).2 (attempt c).1)
    (calm : Act.Keeps Client.sawSkew pause) (more : Nat) (c : Client ω) :
    allSearches journal begun (Retry.history attempt pause more c) ≤ budget c ∧
      allComplaints (Retry.history attempt pause more c) ≤ budget c + 1 := by
  have whole (c : Client ω) : budget (begun c) = budget c := by rw [budget, budget, unseen]
  have last (c : Client ω) : allSearches journal begun [.of attempt c] ≤ budget c ∧
      allComplaints [.of attempt c] ≤ budget c + 1 := by
    rw [← whole]
    refine ⟨(each c).search, ?_⟩
    rw [allComplaints_cons]
    exact (each c).complaint.trans (by omega)
  induction more generalizing c with
  | zero => exact last c
  | succ more ih =>
    rw [Retry.history]
    cases result : (attempt c).1 with
    | ok value => exact last c
    | error failure =>
      dsimp only
      -- what an attempt has used up is no longer there for those after it
      by_cases final : failure.decision = .fail
      · rw [if_pos final]
        exact last c
      · rw [if_neg final]
        obtain ⟨searches, complaints⟩ := (each c).rest failure result final
        obtain ⟨searches', complaints'⟩ := ih (pause (attempt c).2).2
        have left : budget (pause (attempt c).2).2 = budget (attempt c).2 := by
          rw [budget, budget, calm]
        rw [whole] at searches complaints
        rw [left] at searches' complaints'
        rw [allSearches_cons, allComplaints_cons]
        dsimp only [Attempt.of]
        omega

/-! ### Calls to swarms -/

theorem sawSkew_set_pin (c : Client ω) (node : Node) :
    Client.sawSkew { c with notes := c.notes.set .pinnedNode node } = c.sawSkew := by
  have other : CallKey.sawSkew ≠ CallKey.pinnedNode := nofun
  rw [Client.sawSkew, Scratch.contains, Scratch.get?_set_of_ne _ _ other]
  rfl

theorem sawSkew_erase_pin (c : Client ω) :
    Client.sawSkew { c with notes := c.notes.erase .pinnedNode } = c.sawSkew := by
  have other : CallKey.sawSkew ≠ CallKey.pinnedNode := nofun
  rw [Client.sawSkew, Scratch.contains, Scratch.get?_erase, if_neg other]
  rfl

/-- To correct a swarm has to do neither with the note nor with the world. -/
theorem keeps_onMembership (call : SwarmCall) (node : Node) (body : Option Bytes)
    (failure : ApiFailure) :
    Act.Keeps (fun c : Client ω => (c.sawSkew, c.outside))
      (SwarmApi.onMembership call node body failure) := by
  have replaced : Act.Keeps (fun c : Client ω => (c.sawSkew, c.outside))
      (SwarmSource.replaceFrom call.account body) := by
    unfold SwarmSource.replaceFrom
    split
    · exact .pure _
    · exact .bind (fun _ => rfl) fun _ => .pure _
  have dropped : Act.Keeps (fun c : Client ω => (c.sawSkew, c.outside))
      (SwarmSource.drop node call.account) :=
    .bind (fun _ => rfl) fun _ => .ite (fun _ => rfl) (.pure _)
  have unpinned : Act.Keeps (fun c : Client ω => (c.sawSkew, c.outside))
      (modify fun c => { c with notes := c.notes.erase .pinnedNode }) :=
    fun c => congrArg (·, c.outside) (sawSkew_erase_pin c)
  refine replaced.bind fun usable => ?_
  cases usable with
  | true => exact .bind unpinned fun _ => .pure _
  | false => exact dropped.bind fun _ => .bind unpinned fun _ => .pure _

/-- After a refusal the failure says what it said, and nothing of the time. -/
theorem isSkew_onMembership (call : SwarmCall) (node : Node) {body : Option Bytes}
    {failure : ApiFailure} (member : SwarmApi.membershipBody? failure = some body) (c : Client ω) :
    isSkew (SwarmApi.onMembership call node body failure c).1 = false := by
  rw [(SwarmApi.onMembership_eq call node body failure c).1,
    isSkew_congr (ApiFailure.onion?_withDecision _ _)]
  cases skew : isSkew failure with
  | false => rfl
  | true => cases member.symm.trans (SwarmApi.membershipBody?_of_isSkew skew)

/-- A refusal is neither a good reply nor a complaint about the time. -/
theorem Handles.of_member {found left corrected : Client ω} {failure told : ApiFailure}
    {outcome : Except ApiFailure OnionReply} {body : Option Bytes}
    (handles : Handles journal found left outcome (.error failure))
    (member : SwarmApi.membershipBody? failure = some body) (told_calm : isSkew told = false)
    (seen : corrected.sawSkew = left.sawSkew) (same : corrected.outside = left.outside) :
    Handles journal found corrected outcome (.error told) := by
  have silent {raw : ApiFailure} {decision : Decision} (skew : isSkew raw = true)
      (member : SwarmApi.membershipBody? (raw.withDecision decision) = some body) : False := by
    rw [← isSkew_congr (raw.onion?_withDecision decision)] at skew
    cases member.symm.trans (SwarmApi.membershipBody?_of_isSkew skew)
  cases handles with
  | replied calm kept final =>
    obtain ⟨reason, rfl⟩ := final failure rfl
    cases member
  | first synced skew => exact (silent skew member).elim
  | again skew => exact (silent skew member).elim
  | other calm _ noted kept =>
    exact .other calm told_calm (seen.trans noted) ((congrArg journal same).trans kept)

/-- What an attempt makes of what its node answers. -/
theorem Journal.handles_sendTo (watch : Journal rpc resync journal) (drops : Bool)
    (call : SwarmCall) (node : Node) (pass : Nat → Act ω Unit) (c : Client ω) :
    Handles journal c
      ((SwarmApi.sendTo (send rpc resync drops) call node).run pass c).2 (rpc node call.call c).1
      ((SwarmApi.sendTo (send rpc resync drops) call node).run pass c).1 := by
  have handles := watch.handles drops node call.call pass c
  rw [SwarmApi.run_sendTo]
  cases sent : (send rpc resync drops node call.call).run pass c with
  | mk result left =>
    rw [sent] at handles
    cases result with
    | ok v => exact handles
    | error failure =>
      dsimp only at handles ⊢
      cases member : SwarmApi.membershipBody? failure with
      | none => exact handles
      | some body =>
        obtain ⟨seen, same⟩ := Prod.mk.inj (keeps_onMembership call node body failure left)
        exact handles.of_member member (isSkew_onMembership call node member left) seen same

/-- A swarm is asked for by a call of its own. -/
theorem keeps_notes_fetch {pass : Nat → Act ω Unit} (blind : ∀ delay, (pass delay).Blind)
    (source : SwarmSource ω) (account : String) :
    Act.Keeps Client.notes ((source.fetch account).run pass) := by
  refine .run_bind source.pool.errands_randomNode.keeps_notes fun picked => ?_
  cases picked with
  | error e => exact .pure _
  | ok n =>
    have asked : Act.Keeps Client.notes
        ((Work.apart (source.ask n (.findSwarm account))).run pass) := by
      intro c
      rw [Work.run_apart blind]
    refine .run_bind asked fun reply => ?_
    cases reply with
    | error e => exact .pure _
    | ok reply =>
      dsimp only
      cases Swarm.ofReply? reply with
      | none => exact .pure _
      | some nodes => exact .pure _

theorem keeps_notes_get {pass : Nat → Act ω Unit} (blind : ∀ delay, (pass delay).Blind)
    (source : SwarmSource ω) (account : String) :
    Act.Keeps Client.notes ((source.get account).run pass) := by
  refine .run_bind (fun _ => rfl) fun known => ?_
  split
  · exact .pure _
  · refine .run_bind (keeps_notes_fetch blind source account) fun fetched => ?_
    cases fetched with
    | error e => exact .pure _
    | ok nodes =>
      dsimp only
      split
      · exact .pure _
      · exact .run_bind (fun _ => rfl) fun _ => .pure _

theorem keeps_notes_target {pass : Nat → Act ω Unit} (blind : ∀ delay, (pass delay).Blind)
    (source : SwarmSource ω) (account : String) :
    Act.Keeps Client.notes ((source.target account).run pass) := by
  refine .run_bind (keeps_notes_get blind source account) fun swarm => ?_
  cases swarm with
  | error e => exact .pure _
  | ok swarm =>
    refine .run_bind (fun _ => rfl) fun picked => ?_
    cases picked with
    | none => exact .pure _
    | some n => exact .pure _

theorem keeps_target {pass : Nat → Act ω Unit} (blind : ∀ delay, (pass delay).Blind)
    (source : SwarmSource ω) (call : SwarmCall) :
    Act.Keeps Client.sawSkew ((SwarmApi.target source call).run pass) := by
  intro c
  rw [SwarmApi.run_target]
  split
  · rfl
  · rfl
  · have kept := keeps_notes_target blind source call.account c
    cases picked : (source.target call.account).run pass c with
    | mk result c₁ =>
      rw [picked] at kept
      have seen : c₁.sawSkew = c.sawSkew := congrArg (·.contains .sawSkew) kept
      cases result with
      | error e => exact seen
      | ok n => exact (sawSkew_set_pin c₁ n).trans seen

/-- What one attempt of a call to a swarm makes use of, once its node is picked. -/
theorem Journal.thrifty_send (watch : Journal rpc resync journal) (drops : Bool)
    (source : SwarmSource ω) (call : SwarmCall) (pass : Nat → Act ω Unit) (c : Client ω) :
    Thrifty journal ((SwarmApi.target source call).run pass c).2
      ((SwarmApi.send source (send rpc resync drops) call).run pass c).2
      ((SwarmApi.send source (send rpc resync drops) call).run pass c).1 := by
  cases picked : (SwarmApi.target source call).run pass c with
  | mk result picking =>
    cases result with
    | ok node =>
      rw [SwarmApi.run_send_of_picked picked]
      exact (watch.handles_sendTo drops call node pass picking).thrifty
    | error failure =>
      obtain ⟨e, rfl⟩ := SwarmApi.directory_of_run_target picked
      rw [SwarmApi.run_send_of_unpicked picked]
      refine ⟨by rw [searches_of_kept rfl]; omega, complaints_le _, fun failure failed again => ?_⟩
      obtain rfl := Except.error.inj failed
      exact absurd rfl again

/-- The attempts of a request, by some policy. -/
def triesOf {Request : Type} (policy : RetryPolicy) (pass : Nat → Act ω Unit)
    (api : Request → Work ω (Except ApiFailure Json)) (request : Request) (c : Client ω) :
    List (Attempt (Client ω) Json) :=
  Retry.history ((api request).run pass) ((Retrying.pause policy.backoff).run pass)
    (max 1 policy.maxAttempts.toNat - 1) c

/-- A request of which nothing is noted comes to what its last attempt comes to. -/
theorem run_triesOf {Request : Type} (policy : RetryPolicy) (pass : Nat → Act ω Unit)
    (api : Request → Work ω (Except ApiFailure Json)) (request : Request) {c : Client ω}
    (fresh : c.notes = .empty) :
    ∃ a, (triesOf policy pass api request c).getLast? = some a ∧
      (Retrying.send policy api request).run pass c = (a.result, a.left) := by
  have same : Retrying.policyFor policy c.notes = policy := by rw [fresh]; rfl
  rw [Retrying.run_send, same]
  exact Retry.attempts_eq_last _ _ _ c

theorem thrifty_triesOf {Request : Type} (policy : RetryPolicy) {pass : Nat → Act ω Unit}
    (kept : ∀ delay, Act.Keeps Client.notes (pass delay))
    {api : Request → Work ω (Except ApiFailure Json)} {request : Request}
    {begun : Client ω → Client ω} (unseen : ∀ c, (begun c).sawSkew = c.sawSkew)
    (each : ∀ c, Thrifty journal (begun c) ((api request).run pass c).2
      ((api request).run pass c).1) {c : Client ω} (fresh : c.notes = .empty) :
    allSearches journal begun (triesOf policy pass api request c) ≤ 1 ∧
      allComplaints (triesOf policy pass api request c) ≤ 2 := by
  have calm : Act.Keeps Client.sawSkew ((Retrying.pause policy.backoff).run pass) :=
    Retrying.keeps_pause (fun delay => (kept delay).part (·.contains .sawSkew)) (fun _ _ => rfl)
      policy.backoff
  have whole : budget c = 1 := by
    rw [budget, Client.sawSkew, fresh]
    rfl
  have few := thrifty_history unseen each calm (max 1 policy.maxAttempts.toNat - 1) c
  rw [whole] at few
  exact few

/-- **A call looks for the time at most once.**

* Of calls that are made with the same notes, each that is answered with a complaint about the time
  makes a search exactly if no other complaint came since the last good reply, and is to be made
  again exactly if it made a search that succeeded.  No other call makes a search.
* A call to a node that is tried again, by any policy, makes at most one search in all its attempts,
  and at most two of them end with a complaint.
* So does a call to a swarm, once the nodes are picked.  If the swarm is asked for first, that is a
  call of its own. -/
theorem searches_once (watch : Journal rpc resync journal) (drops : Bool) :
    (∀ s earlier, Course rpc resync drops (s :: earlier) →
      (∀ failure, s.outcome rpc = .error failure → isSkew failure = true →
        (ComplainedSince rpc earlier →
          journal (s.left rpc resync drops).outside = journal s.found.outside ∧
          s.result rpc resync drops = .error (failure.withDecision .fail)) ∧
        (¬ ComplainedSince rpc earlier → ∃ synced,
          journal (s.left rpc resync drops).outside = journal s.found.outside ++ [synced] ∧
          s.result rpc resync drops
            = .error (failure.withDecision (if synced then .retry else .fail)))) ∧
      (¬ Complains (s.outcome rpc) →
        journal (s.left rpc resync drops).outside = journal s.found.outside)) ∧
    ∀ (policy : RetryPolicy) (pass : Nat → Act ω Unit) (c : Client ω), c.notes = .empty →
      (∀ node call, (∀ delay, Act.Keeps Client.notes (pass delay)) →
        let api := fun r : Node × NodeCall => send rpc resync drops r.1 r.2
        let tries := triesOf policy pass api (node, call) c
        (∃ a, tries.getLast? = some a ∧
          (Retrying.send policy api (node, call)).run pass c = (a.result, a.left)) ∧
        allSearches journal id tries ≤ 1 ∧ allComplaints tries ≤ 2) ∧
      (∀ (source : SwarmSource ω) call, (∀ delay, (pass delay).Blind) →
        let api := SwarmApi.send source (send rpc resync drops)
        let tries := triesOf policy pass api call c
        (∃ a, tries.getLast? = some a ∧
          (Retrying.send policy api call).run pass c = (a.result, a.left)) ∧
        allSearches journal (fun c => ((SwarmApi.target source call).run pass c).2) tries ≤ 1 ∧
        allComplaints tries ≤ 2) := by
  refine ⟨fun s earlier course => ?_, fun policy pass c fresh => ⟨?_, ?_⟩⟩
  · have handles := watch.handles_sent drops s
    refine ⟨fun failure failed skew => ?_, handles.of_not_complains⟩
    rw [failed] at handles
    rw [← course.sawSkew_iff watch]
    exact handles.of_isSkew skew
  · intro node call kept api tries
    exact ⟨run_triesOf policy pass api (node, call) fresh,
      thrifty_triesOf policy kept (fun _ => rfl)
        (fun c => (watch.handles drops node call pass c).thrifty) fresh⟩
  · intro source call blind api tries
    exact ⟨run_triesOf policy pass api call fresh,
      thrifty_triesOf policy (fun delay => (blind delay).notes) (keeps_target blind source call)
        (watch.thrifty_send drops source call pass) fresh⟩

/-! ### A call that is answered with two complaints -/

/-- A layer below that answers by a list, and then no more. -/
def scripted : NodeRpc (List (Except ApiFailure OnionReply)) := fun _ _ c =>
  match c.outside with
  | [] => (.error (.malformed "no answer"), c)
  | answer :: rest => (answer, { c with outside := rest })

theorem keeps_notes_scripted (n : Node) (call : NodeCall) :
    Act.Keeps Client.notes (scripted n call) := by
  intro c
  rw [scripted]
  split <;> rfl

/-- Searches that always find the time, kept count of. -/
theorem journal_scripted :
    Journal (fun n call => besides (scripted n call)) (entered (pure true)) Prod.snd :=
  journal_watched keeps_notes_scripted (.pure true)

/-- A complaint, a lost reply, and another complaint. -/
def trialAnswers : List (Except ApiFailure OnionReply) :=
  [.error (.onion (.clockSkew (.ofCode 406))), .error (.onion (.badReply "lost")),
    .error (.onion (.clockSkew (.ofCode 425)))]

/-- The caller that is answered so. -/
def trialCaller : Client (List (Except ApiFailure OnionReply) × List Bool) :=
  .start .empty .zero (trialAnswers, [])

/-- The three times that the call is sent. -/
def trialSent (earlier : Nat) : Sent (List (Except ApiFailure OnionReply) × List Bool) :=
  match earlier with
  | 0 => ⟨default, .info, trialCaller⟩
  | earlier + 1 => ⟨default, .info,
      (trialSent earlier).left (fun n call => besides (scripted n call)) (entered (pure true)) true⟩

/-- The second complaint is final and starts no search, though a lost reply came between the two. -/
theorem searches_once_trialCaller :
    let rpc := fun n call => besides (scripted n call)
    let resync := entered (pure true)
    let sent := [trialSent 2, trialSent 1, trialSent 0]
    let tries := triesOf ⟨4, .none⟩ (fun _ => pure ())
      (fun r : Node × NodeCall => send rpc resync true r.1 r.2) (default, .info) trialCaller
    (Course rpc resync true sent ∧ ComplainedSince rpc (sent.drop 1) ∧
      (trialSent 2).result rpc resync true
        = .error (.decided (.onion (.clockSkew (.ofCode 425))) .fail)) ∧
    trialCaller.notes = .empty ∧ tries.length = 3 ∧
    allSearches Prod.snd id tries ≤ 1 ∧ allComplaints tries ≤ 2 := by
  intro rpc resync sent tries
  have course : Course rpc resync true sent := .next (.next (.first rfl) rfl) rfl
  have complained : ComplainedSince rpc (sent.drop 1) :=
    ⟨[trialSent 1], trialSent 0, [], rfl, ⟨_, rfl, rfl⟩, fun t mem => by
      obtain rfl := List.mem_singleton.1 mem
      exact ⟨_, rfl⟩⟩
  obtain ⟨sequence, whole⟩ := searches_once journal_scripted true
  obtain ⟨last, -⟩ := sequence _ _ course
  obtain ⟨node, -⟩ := whole ⟨4, .none⟩ (fun _ => pure ()) trialCaller rfl
  obtain ⟨-, few⟩ := node default .info fun _ => .pure ()
  exact ⟨⟨course, complained, ((last _ rfl rfl).1 complained).2⟩, rfl, by decide +kernel, few⟩

end NodeApi
end OnionSwarm

/-
Turns are kept while swarms change.

Whoever wants a pick gives the swarm as it is at that moment.  So a round may hold nodes that have
left the swarm since, and it lacks those that have joined it.  Still the round of an account can be
told from its picks alone, without the swarms: it goes on until somebody is picked again, and who is
picked again is the first of another round.  This is exactly what is remembered (`used_after`).

Nodes of the round that are not in the swarm make no difference to it (`among`).  So if the round
holds none of a swarm, or all of it, the picks fall into full rounds of the swarm from there on, as
long as it stays the same.
-/
import OnionSwarm.Proofs.Directory.Rounds

namespace OnionSwarm.Rounds

/-! ### Requests -/

/-- What the rounds are asked for.  Each pick has dice of its own, so nothing is assumed of what else
they are thrown for. -/
inductive Request where
  | select (account : String) (swarm : List Node) (dice : Dice)
  | reset (account : String)

namespace Request

/-- Whose round it is. -/
def account : Request → String
  | select account _ _ => account
  | reset account => account

/-- Who is picked. -/
def answer (r : Rounds) : Request → Option Node
  | select account swarm dice => (r.select dice account swarm).1
  | reset _ => none

/-- The rounds afterwards. -/
def after (r : Rounds) : Request → Rounds
  | select account swarm dice => (r.select dice account swarm).2.1
  | reset account => r.reset account

/-- The rounds of other accounts are as they were. -/
theorem get?_after_of_ne (r : Rounds) (q : Request) {other : String} (ne : other ≠ q.account) :
    (q.after r).get? other = r.get? other := by
  cases q with
  | reset account =>
    exact (Table.get?_erase r account other).trans (if_neg ne)
  | select account swarm dice =>
    show (r.select dice account swarm).2.1.get? other = r.get? other
    rcases r.select_cases dice account swarm with ⟨-, form⟩ | ⟨m, -, dice', ⟨-, form⟩ | ⟨-, form⟩⟩
    · rw [form]
    · rw [form]
      exact (Table.get?_insert r account other _).trans (if_neg ne)
    · rw [form]
      exact (Table.get?_insert r account other _).trans (if_neg ne)

end Request

/-- The rounds after some requests. -/
def after (r : Rounds) (requests : List Request) : Rounds := requests.foldl Request.after r

/-- Requests, each with who is picked. -/
abbrev Transcript := List (Request × Option Node)

/-- What comes of some requests. -/
def transcript (r : Rounds) : List Request → Transcript
  | [] => []
  | q :: rest => (q, q.answer r) :: transcript (q.after r) rest

/-- Who is picked for an account. -/
def picksOf (account : String) (told : Transcript) : List Node :=
  told.filterMap fun e => if e.1.account = account then e.2 else none

variable {account : String} {swarm : List Node}

/-! ### The round, as the picks tell it -/

/-- The round of an account after one more request. -/
def roundWith (account : String) (round : List Node) : Request × Option Node → List Node
  | (.reset other, _) => if other = account then [] else round
  | (.select other .., some m) =>
    if other = account then
      if m.isIn round then [m] else round ++ [m]
    else round
  | (.select .., none) => round

/-- The round of an account, who was picked first standing first. -/
def roundOf (account : String) (told : Transcript) : List Node :=
  told.foldl (roundWith account) []

theorem used_request {r : Rounds} {round : List Node}
    (same : r.used account = (round.map Node.site).reverse) (q : Request) :
    (q.after r).used account = ((roundWith account round (q, q.answer r)).map Node.site).reverse := by
  have picked (m : Node) : m.isIn round = true ↔ m.site ∈ r.used account := by
    rw [same, List.mem_reverse]
    exact Node.isIn_iff
  cases q with
  | reset other =>
    show (r.reset other).used account = _
    rw [used_reset, roundWith]
    by_cases own : other = account
    · rw [if_pos own.symm, if_pos own]
      rfl
    · rw [if_neg (Ne.symm own), if_neg own]
      exact same
  | select other swarm dice =>
    show (r.select dice other swarm).2.1.used account
      = ((roundWith account round (_, (r.select dice other swarm).1)).map Node.site).reverse
    -- nobody is picked, or a member that is new to the round, or one of a round that is over
    rcases r.select_cases dice other swarm with ⟨-, form⟩ | ⟨m, mem, dice', ⟨fresh, form⟩ | ⟨all, form⟩⟩
    · rw [form]
      exact same
    · rw [form, used_insert, roundWith]
      by_cases own : other = account
      · subst own
        rw [if_pos rfl, if_pos rfl, if_neg (fun again => fresh ((picked m).1 again)), same]
        simp
      · rw [if_neg (Ne.symm own), if_neg own]
        exact same
    · rw [form, used_insert, roundWith]
      by_cases own : other = account
      · subst own
        rw [if_pos rfl, if_pos rfl, if_pos ((picked m).2 (all m mem))]
        rfl
      · rw [if_neg (Ne.symm own), if_neg own]
        exact same

/-- What is remembered of an account is its round, as the picks tell it. -/
theorem used_after (requests : List Request) (account : String) :
    (after .empty requests).used account
      = ((roundOf account (transcript .empty requests)).map Node.site).reverse := by
  have going (requests : List Request) : ∀ (r : Rounds) (round : List Node),
      r.used account = (round.map Node.site).reverse →
      (after r requests).used account
        = (((transcript r requests).foldl (roundWith account) round).map Node.site).reverse := by
    induction requests with
    | nil =>
      intro r round same
      exact same
    | cons q rest ih =>
      intro r round same
      exact ih _ _ (used_request same q)
  exact going requests .empty [] rfl

/-! ### While the swarm stays the same -/

/-- The nodes of a round that are in the swarm. -/
def among (swarm : List Node) (used : List Site) : List Site :=
  used.filter (· ∈ swarm.map Node.site)

theorem among_cons {m : Node} (mem : m ∈ swarm) (used : List Site) :
    among swarm (m.site :: used) = m.site :: among swarm used :=
  List.filter_cons_of_pos (by simpa using ⟨m, mem, rfl⟩)

theorem site_mem_among_iff {m : Node} (mem : m ∈ swarm) {used : List Site} :
    m.site ∈ among swarm used ↔ m.site ∈ used := by
  rw [among, List.mem_filter]
  exact and_iff_left (by simpa using ⟨m, mem, rfl⟩)

/-- A request for the account picks from this swarm. -/
def Request.Steady (account : String) (swarm : List Node) (q : Request) : Prop :=
  q.account = account → ∃ dice, q = .select account swarm dice

/-- The round is over before the first pick from the swarm, or the picks fall into full rounds and a
current one. -/
def Begun (swarm : List Node) (used : List Site) (picks : List Node) : Prop :=
  (picks = [] ∧ ∀ x ∈ swarm, x.site ∈ used) ∨
    ∃ full current, Even swarm (among swarm used) picks full current

theorem Begun.request {r : Rounds} {picks : List Node} (distinct : Distinct swarm)
    (begun : Begun swarm (r.used account) picks) {q : Request} (steady : q.Steady account swarm) :
    Begun swarm ((q.after r).used account)
      (picks ++ if q.account = account then (q.answer r).toList else []) := by
  by_cases own : q.account = account
  · obtain ⟨dice, rfl⟩ := steady own
    rw [if_pos own]
    show Begun swarm ((r.select dice account swarm).2.1.used account)
      (picks ++ (r.select dice account swarm).1.toList)
    -- a fresh member goes on with the current round, and any other one begins a new round
    rcases r.select_cases dice account swarm with
      ⟨-, form⟩ | ⟨m, mem, dice', ⟨fresh, form⟩ | ⟨all, form⟩⟩
    · rw [form]
      simpa using begun
    · rw [form, used_insert, if_pos rfl]
      rcases begun with ⟨-, spent⟩ | ⟨full, current, even⟩
      · exact absurd (spent m mem) fresh
      · refine Or.inr ⟨full, current ++ [m], ?_⟩
        rw [among_cons mem]
        exact even.goesOn mem fun old => fresh ((site_mem_among_iff mem).1 old)
    · rw [form, used_insert, if_pos rfl]
      refine Or.inr ?_
      have first : among swarm [m.site] = [m.site] := among_cons mem []
      rw [first]
      rcases begun with ⟨rfl, -⟩ | ⟨full, current, even⟩
      · exact ⟨[], [m], (Even.nil swarm).goesOn mem List.not_mem_nil⟩
      · refine ⟨full ++ [current], [m], even.anew distinct mem ?_⟩
        intro x mem
        exact (site_mem_among_iff mem).2 (all x mem)
  · have same : (q.after r).used account = r.used account := by
      rw [used, q.get?_after_of_ne r (Ne.symm own)]
      rfl
    rw [if_neg own, List.append_nil, same]
    exact begun

theorem picksOf_cons (r : Rounds) (q : Request) (rest : List Request) :
    picksOf account (transcript r (q :: rest))
      = (if q.account = account then (q.answer r).toList else [])
        ++ picksOf account (transcript (q.after r) rest) := by
  show picksOf account ((q, q.answer r) :: transcript (q.after r) rest) = _
  by_cases own : q.account = account
  · cases answer : q.answer r <;> simp [picksOf, own]
  · simp [picksOf, own]

theorem Begun.after {stretch : List Request} (distinct : Distinct swarm)
    (steady : ∀ q ∈ stretch, q.Steady account swarm) {r : Rounds} {picks : List Node}
    (begun : Begun swarm (r.used account) picks) :
    Begun swarm ((Rounds.after r stretch).used account)
      (picks ++ picksOf account (transcript r stretch)) := by
  induction stretch generalizing r picks with
  | nil =>
    show Begun swarm (r.used account) (picks ++ [])
    rwa [List.append_nil]
  | cons q rest ih =>
    rw [picksOf_cons, ← List.append_assoc]
    have next := begun.request distinct (steady q List.mem_cons_self)
    exact ih (fun q mem => steady q (List.mem_cons_of_mem _ mem)) next

/-- From a swarm that is not empty, somebody is picked each time. -/
theorem length_picksOf {stretch : List Request} (nonempty : swarm ≠ [])
    (steady : ∀ q ∈ stretch, q.Steady account swarm) (r : Rounds) :
    (picksOf account (transcript r stretch)).length = stretch.countP (·.account = account) := by
  induction stretch generalizing r with
  | nil => rfl
  | cons q rest ih =>
    have others := ih (fun q mem => steady q (List.mem_cons_of_mem _ mem)) (q.after r)
    rw [picksOf_cons, List.length_append, others, List.countP_cons]
    by_cases own : q.account = account
    · obtain ⟨dice, rfl⟩ := steady q List.mem_cons_self own
      obtain ⟨m, picked, -⟩ := r.exists_select dice account nonempty
      have answer : (Request.select account swarm dice).answer r = some m := picked
      simp only [own, answer, Option.toList_some, List.length_singleton, decide_true, if_true]
      omega
    · simp [own]

/-! ### Every sequence of requests -/

/-- **Turns are kept, however swarms change.**

At every moment of any sequence of requests, for any accounts, with any swarms and any dice:

* what is remembered of an account is its round, as the picks tell it;
* nobody is picked from an empty swarm, which changes nothing.  From any other swarm a member is
  picked; it is one that was picked in this round exactly if all of them were, and then it is all
  that the next round holds;
* a request leaves the rounds of other accounts as they were;
* if the round holds none of the members of a swarm, as a new one does, or all of them, as one that
  is over does, then as long as the account keeps to this swarm its picks fall into blocks as long as
  the swarm, each of which holds every member once, and no member is picked twice more often than
  another one. -/
theorem turns_kept_as_swarms_change (before : List Request) (account : String)
    (swarm : List Node) :
    let r := after .empty before
    let round := roundOf account (transcript .empty before)
    r.used account = (round.map Node.site).reverse ∧
    (∀ dice,
      (swarm = [] → r.select dice account swarm = (none, r, dice)) ∧
      (swarm ≠ [] → ∃ m rounds dice', r.select dice account swarm = (some m, rounds, dice') ∧
        m ∈ swarm ∧ (m.isIn round = true ↔ ∀ x ∈ swarm, x.isIn round = true) ∧
        rounds.used account = if m.isIn round then [m.site] else m.site :: r.used account)) ∧
    (∀ (q : Request) (other : String), other ≠ q.account →
      (q.after r).get? other = r.get? other) ∧
    (Distinct swarm →
      (∀ x ∈ swarm, x.isIn round = false) ∨ (∀ x ∈ swarm, x.isIn round = true) →
      ∀ stretch : List Request, (∀ q ∈ stretch, q.Steady account swarm) →
        let picks := picksOf account (transcript r stretch)
        (swarm ≠ [] → picks.length = stretch.countP (·.account = account)) ∧
        (∀ front block rest, picks = front ++ block ++ rest → swarm.length ∣ front.length →
          block.length = swarm.length → block.Perm swarm) ∧
        ∀ x ∈ swarm, ∀ y ∈ swarm, picks.count x ≤ picks.count y + 1) := by
  intro r round
  have same : r.used account = (round.map Node.site).reverse := used_after before account
  have picked (m : Node) : m.isIn round = true ↔ m.site ∈ r.used account := by
    rw [same, List.mem_reverse]
    exact Node.isIn_iff
  refine ⟨same, ?_, fun q other ne => q.get?_after_of_ne r ne, ?_⟩
  · intro dice
    rcases r.select_cases dice account swarm with
      ⟨rfl, form⟩ | ⟨m, mem, dice', ⟨fresh, form⟩ | ⟨all, form⟩⟩
    · exact ⟨fun _ => form, fun nonempty => absurd rfl nonempty⟩
    · have new : ¬ m.isIn round = true := fun again => fresh ((picked m).1 again)
      refine ⟨fun empty => absurd mem (by simp [empty]), fun _ => ⟨m, _, _, form, mem, ?_, ?_⟩⟩
      · exact ⟨fun again => absurd again new, fun all => absurd (all m mem) new⟩
      · rw [used_insert, if_pos rfl, if_neg new]
    · have again : m.isIn round = true := (picked m).2 (all m mem)
      refine ⟨fun empty => absurd mem (by simp [empty]), fun _ => ⟨m, _, _, form, mem, ?_, ?_⟩⟩
      · exact ⟨fun _ x mem => (picked x).2 (all x mem), fun _ => again⟩
      · rw [used_insert, if_pos rfl, if_pos again]
  · intro distinct starts stretch steady picks
    -- the stretch begins with a round that is new to this swarm, or with one that is over
    have begun : Begun swarm (r.used account) [] := by
      rcases starts with new | spent
      · refine Or.inr ⟨[], [], ?_⟩
        have none : among swarm (r.used account) = [] := by
          refine List.filter_eq_nil_iff.2 fun site mem within => ?_
          obtain ⟨x, member, rfl⟩ := List.mem_map.1 (by simpa using within)
          have old := (picked x).2 mem
          rw [new x member] at old
          cases old
        rw [none]
        exact .nil swarm
      · exact Or.inl ⟨rfl, fun x mem => (picked x).1 (spent x mem)⟩
    have whole : Begun swarm ((after r stretch).used account) picks :=
      begun.after distinct steady
    refine ⟨fun nonempty => length_picksOf nonempty steady r, ?_, ?_⟩
    · intro front block rest split aligned length
      rcases whole with ⟨none, -⟩ | ⟨full, current, even⟩
      · obtain ⟨-, rfl, -⟩ : front = [] ∧ block = [] ∧ rest = [] := by simpa [none] using split.symm
        rw [List.length_eq_zero_iff.1 length.symm]
      · exact even.perm_block split aligned length
    · intro x mem y mem'
      rcases whole with ⟨none, -⟩ | ⟨full, current, even⟩
      · rw [none]
        exact Nat.zero_le _
      · exact even.count_le_count_succ distinct mem mem'

/-- Some node. -/
def trialMember (port : Nat) : Node := ⟨"https://10.0.0.1", port, ⟨"ed", "x"⟩, ⟨2, 8, 0⟩⟩

/-- A swarm of two. -/
def trialMembers : List Node := [trialMember 1, trialMember 2]

/-- A pick from a swarm that has changed since: it has lost its only node, and others have joined. -/
def trialBefore : List Request := [.select "05aa" [trialMember 3] .zero]

/-- Picks from the swarm as it is now, among requests for another account. -/
def trialStretch : List Request :=
  [.select "05aa" trialMembers ⟨id, 1⟩, .select "05bb" [trialMember 3] .zero,
    .select "05aa" trialMembers .zero, .reset "05bb", .select "05aa" trialMembers .zero,
    .select "05aa" trialMembers ⟨id, 2⟩]

theorem turns_kept_trialStretch :
    Distinct trialMembers ∧
    (∀ x ∈ trialMembers, x.isIn (roundOf "05aa" (transcript .empty trialBefore)) = false) ∧
    (∀ q ∈ trialStretch, q.Steady "05aa" trialMembers) ∧
    ∃ first second,
      picksOf "05aa" (transcript (after .empty trialBefore) trialStretch) = first ++ second ∧
      first.Perm trialMembers ∧ second.Perm trialMembers := by
  have distinct : Distinct trialMembers := by decide
  have new : ∀ x ∈ trialMembers,
      x.isIn (roundOf "05aa" (transcript .empty trialBefore)) = false := by decide
  have steady : ∀ q ∈ trialStretch, q.Steady "05aa" trialMembers := by
    simp [trialStretch, Request.Steady, Request.account]
  obtain ⟨-, -, -, blocks⟩ := turns_kept_as_swarms_change trialBefore "05aa" trialMembers
  obtain ⟨count, perm, -⟩ := blocks distinct (Or.inl new) trialStretch steady
  generalize picksOf "05aa" (transcript (after .empty trialBefore) trialStretch) = picks at *
  have four : picks.length = 4 := count (by decide)
  refine ⟨distinct, new, steady, picks.take 2, picks.drop 2, by simp, ?_, ?_⟩
  · exact perm [] _ (picks.drop 2) (by simp) (Nat.dvd_zero _) (by simp [four, trialMembers])
  · exact perm (picks.take 2) _ [] (by simp) (by simp [four, trialMembers])
      (by simp [four, trialMembers])

end OnionSwarm.Rounds

/-
Every member of a swarm has its turn once in a round.

The picks from a swarm that stays the same fall into rounds: some that are full, each of which holds
every member once, and a current one, whose members are remembered (`Even`).  A pick either goes to a
member that the current round lacks, or, when it lacks none, closes it and begins another.  As a full
round is as long as the swarm, a block of that length that begins where a round begins is a round.
-/
import Mathlib.Data.List.Perm.Subperm
import Mathlib.Logic.Function.Basic
import OnionSwarm.Directory.Rounds
import OnionSwarm.Proofs.Dice
import OnionSwarm.Proofs.Onion.Guards

namespace OnionSwarm

/-- What decides which node of a swarm is picked: the swarms, and the picks. -/
structure Turns where
  swarms : String → List Node
  rounds : Rounds

namespace Turns

variable {t t' : Turns} {account : String} {m : Node} {nodes : List Node}

/-- A swarm takes the place of another one, and its picks start over. -/
def renew (t : Turns) (account : String) (nodes : List Node) : Turns :=
  ⟨Function.update t.swarms account nodes, t.rounds.reset account⟩

/-- A node is picked from the swarm of an account. -/
inductive Picks (t : Turns) (account : String) (m : Node) : Turns → Prop
  /-- The round goes on with a member that was not picked. -/
  | goesOn (member : m ∈ t.swarms account) (fresh : m.site ∉ t.rounds.used account) :
      Picks t account m
        { t with rounds := t.rounds.insert account (m.site :: t.rounds.used account) }
  /-- All members were picked, and another round begins. -/
  | anew (member : m ∈ t.swarms account)
      (all : ∀ x ∈ t.swarms account, x.site ∈ t.rounds.used account) :
      Picks t account m { t with rounds := t.rounds.insert account [m.site] }

/-- Some choice picks the node from the swarm of the account as it is. -/
def MayPick (t : Turns) (account : String) (m : Node) : Prop :=
  ∃ dice, (t.rounds.select dice account (t.swarms account)).1 = some m

end Turns

namespace Rounds

variable {account : String} {m : Node}

theorem used_reset (r : Rounds) (account other : String) :
    (r.reset account).used other = if other = account then [] else r.used other := by
  unfold used reset
  rw [Table.get?_erase]
  split <;> rfl

theorem used_insert (r : Rounds) (account other : String) (sites : List Site) :
    used (r.insert account sites) other = if other = account then sites else r.used other := by
  unfold used
  rw [Table.get?_insert]
  split <;> rfl

theorem isEmpty_unused_iff {swarm : List Node} {sites : List Site} :
    (unused swarm sites).isEmpty = true ↔ ∀ x ∈ swarm, x.site ∈ sites := by
  simp [unused, List.filter_eq_nil_iff]

/-- What a pick comes to: nobody from an empty swarm; a member that the round lacks; or, when it lacks
none, any member, who begins another round. -/
theorem select_cases (r : Rounds) (dice : Dice) (account : String) (swarm : List Node) :
    (swarm = [] ∧ r.select dice account swarm = (none, r, dice)) ∨
    ∃ m ∈ swarm, ∃ dice',
      (m.site ∉ r.used account ∧ r.select dice account swarm
        = (some m, r.insert account (m.site :: r.used account), dice')) ∨
      ((∀ x ∈ swarm, x.site ∈ r.used account) ∧ r.select dice account swarm
        = (some m, r.insert account [m.site], dice')) := by
  by_cases empty : swarm = []
  · subst empty
    exact Or.inl ⟨rfl, rfl⟩
  · refine Or.inr ?_
    unfold select
    rw [if_neg (by simpa using empty)]
    dsimp only
    by_cases all : (unused swarm (r.used account)).isEmpty = true
    · rw [if_pos all]
      obtain ⟨m, chosen⟩ := dice.exists_pick? empty
      refine ⟨m, Dice.mem_of_pick? chosen, (dice.pick? swarm).2, ?_⟩
      refine Or.inr ⟨isEmpty_unused_iff.1 all, ?_⟩
      dsimp only
      rw [← Prod.eta (dice.pick? swarm), chosen]
    · rw [if_neg all]
      obtain ⟨m, chosen⟩ := dice.exists_pick? fun none => all (List.isEmpty_iff.2 none)
      obtain ⟨member, fresh⟩ := List.mem_filter.1 (Dice.mem_of_pick? chosen)
      refine ⟨m, member, (dice.pick? (unused swarm (r.used account))).2, ?_⟩
      refine Or.inl ⟨by simpa using fresh, ?_⟩
      dsimp only
      rw [← Prod.eta (dice.pick? (unused swarm (r.used account))), chosen]

/-- A member of the swarm is picked, if it has any. -/
theorem exists_select (r : Rounds) (d : Dice) (account : String) {swarm : List Node}
    (nonempty : swarm ≠ []) : ∃ m, (r.select d account swarm).1 = some m ∧ m ∈ swarm := by
  rcases r.select_cases d account swarm with ⟨empty, -⟩ | ⟨m, mem, dice', ⟨-, form⟩ | ⟨-, form⟩⟩
  · exact absurd empty nonempty
  · exact ⟨m, by rw [form], mem⟩
  · exact ⟨m, by rw [form], mem⟩

/-- What a pick makes of the rounds. -/
theorem picks_of_select {t : Turns} {dice dice' : Dice} {rounds : Rounds}
    (picked : t.rounds.select dice account (t.swarms account) = (some m, rounds, dice')) :
    t.Picks account m { t with rounds } := by
  rcases t.rounds.select_cases dice account (t.swarms account) with
    ⟨-, form⟩ | ⟨m', mem, dice₁, ⟨fresh, form⟩ | ⟨all, form⟩⟩
  · rw [form] at picked
    cases picked
  · rw [form] at picked
    obtain ⟨rfl, rfl, -⟩ := picked
    exact .goesOn mem fresh
  · rw [form] at picked
    obtain ⟨rfl, rfl, -⟩ := picked
    exact .anew mem all

/-- What can be picked depends on the picks of the account alone. -/
theorem select_fst_congr {r r' : Rounds} (same : r.used account = r'.used account) (dice : Dice)
    (swarm : List Node) : (r.select dice account swarm).1 = (r'.select dice account swarm).1 := by
  unfold select
  rw [same]
  split
  · rfl
  · dsimp only
    split <;> rfl

end Rounds

/-! ### Rounds -/

/-- The picks from a swarm fall into full rounds and a current one. -/
structure Even (swarm : List Node) (used : List Site) (picks : List Node)
    (full : List (List Node)) (current : List Node) : Prop where
  split : picks = full.flatten ++ current
  perm : ∀ round ∈ full, round.Perm swarm
  member : ∀ m ∈ current, m ∈ swarm
  used : used = (current.map Node.site).reverse
  once : Distinct current

namespace Even

variable {swarm current picks : List Node} {used : List Site} {full : List (List Node)} {m : Node}

theorem nil (swarm : List Node) : Even swarm [] [] [] [] :=
  ⟨rfl, nofun, nofun, rfl, List.nodup_nil⟩

theorem goesOn (even : Even swarm used picks full current) (member : m ∈ swarm)
    (fresh : m.site ∉ used) : Even swarm (m.site :: used) (picks ++ [m]) full (current ++ [m]) where
  split := by rw [even.split, List.append_assoc]
  perm := even.perm
  member x mem := by
    rcases List.mem_append.1 mem with old | new
    · exact even.member x old
    · rw [List.mem_singleton.1 new]
      exact member
  used := by rw [even.used, List.map_append, List.reverse_append]; rfl
  once := by
    rw [even.used, List.mem_reverse] at fresh
    rw [Distinct, List.map_append, List.nodup_append]
    refine ⟨even.once, List.nodup_singleton _, fun x old y new => ?_⟩
    rw [List.mem_singleton.1 new]
    rintro rfl
    exact fresh old

/-- A current round that lacks nobody is full. -/
theorem perm_current (even : Even swarm used picks full current) (distinct : Distinct swarm)
    (all : ∀ x ∈ swarm, x.site ∈ used) : current.Perm swarm := by
  refine (List.perm_ext_iff_of_nodup even.once.of_map distinct.of_map).2 fun x => ?_
  refine ⟨even.member x, fun mem => ?_⟩
  have picked := all x mem
  rw [even.used, List.mem_reverse] at picked
  obtain ⟨y, old, same⟩ := List.mem_map.1 picked
  have eq := List.inj_on_of_nodup_map distinct (even.member y old) mem same
  exact eq ▸ old

theorem anew (even : Even swarm used picks full current) (distinct : Distinct swarm)
    (member : m ∈ swarm) (all : ∀ x ∈ swarm, x.site ∈ used) :
    Even swarm [m.site] (picks ++ [m]) (full ++ [current]) [m] where
  split := by simp [even.split]
  perm round mem := by
    rcases List.mem_append.1 mem with old | new
    · exact even.perm round old
    · rw [List.mem_singleton.1 new]
      exact even.perm_current distinct all
  member x mem := List.mem_singleton.1 mem ▸ member
  used := rfl
  once := List.nodup_singleton _

/-- The current round is no longer than the swarm, and holds all of it if it is as long. -/
theorem subperm_current (even : Even swarm used picks full current) : current.Subperm swarm :=
  List.subperm_of_subset even.once.of_map fun x mem => even.member x mem

/-- A block of the length of the swarm that begins where a round begins is a round. -/
theorem perm_block {before block after : List Node} (even : Even swarm used picks full current)
    (within : picks = before ++ block ++ after) (aligned : swarm.length ∣ before.length)
    (length : block.length = swarm.length) : block.Perm swarm := by
  obtain ⟨split, perm, last⟩ : picks = full.flatten ++ current ∧
      (∀ round ∈ full, round.Perm swarm) ∧ current.Subperm swarm :=
    ⟨even.split, even.perm, even.subperm_current⟩
  rw [split, List.append_assoc] at within
  clear split even
  induction full generalizing before with
  | nil =>
    have few := last.length_le
    have lengths := congrArg List.length within
    simp only [List.flatten_nil, List.nil_append, List.length_append] at lengths
    obtain rfl : before = [] := List.length_eq_zero_iff.1 (by omega)
    obtain rfl : after = [] := List.length_eq_zero_iff.1 (by omega)
    rw [List.flatten_nil, List.nil_append, List.nil_append, List.append_nil] at within
    rw [← within] at length ⊢
    exact last.perm_of_length_le (Nat.le_of_eq length.symm)
  | cons round rest ih =>
    have long : round.length = swarm.length := (perm round List.mem_cons_self).length_eq
    rw [List.flatten_cons, List.append_assoc] at within
    by_cases first : before = []
    · rw [first, List.nil_append] at within
      obtain ⟨rfl, -⟩ := List.append_inj within (long.trans length.symm)
      exact perm round List.mem_cons_self
    · -- the block begins later, and where it begins another round begins
      have behind : swarm.length ≤ before.length :=
        Nat.le_of_dvd (List.length_pos_of_ne_nil first) aligned
      have taken : (before.take swarm.length).length = swarm.length :=
        List.length_take_of_le behind
      rw [← List.take_append_drop swarm.length before, List.append_assoc] at within
      obtain ⟨-, others⟩ := List.append_inj within (long.trans taken.symm)
      refine ih others ?_ fun other mem => perm other (List.mem_cons_of_mem round mem)
      rw [List.length_drop]
      exact Nat.dvd_sub aligned (Nat.dvd_refl _)

/-- In full rounds every member has its turn once. -/
theorem count_flatten (even : Even swarm used picks full current) (distinct : Distinct swarm)
    (mem : m ∈ swarm) : full.flatten.count m = full.length := by
  have perm := even.perm
  clear even
  induction full with
  | nil => rfl
  | cons round rest ih =>
    have once : round.count m = 1 := by
      rw [(perm round List.mem_cons_self).count_eq]
      exact List.count_eq_one_of_mem distinct.of_map mem
    have others := ih fun round mem => perm round (List.mem_cons_of_mem _ mem)
    rw [List.flatten_cons, List.count_append, once, others, List.length_cons]
    omega

/-- At every moment, no member was picked twice more often than another one. -/
theorem count_le_count_succ {m' : Node} (even : Even swarm used picks full current)
    (distinct : Distinct swarm) (mem : m ∈ swarm) (mem' : m' ∈ swarm) :
    picks.count m ≤ picks.count m' + 1 := by
  have once : current.count m ≤ 1 := List.nodup_iff_count_le_one.1 even.once.of_map m
  have rounds := even.count_flatten distinct mem
  have rounds' := even.count_flatten distinct mem'
  rw [even.split, List.count_append, List.count_append]
  omega

end Even
end OnionSwarm

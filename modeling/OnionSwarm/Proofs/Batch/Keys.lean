/-
Which calls to swarms share a batch.

The key of a call is one text, made of the account and, if a node is forced, of its address and its
port, with a sign before each of the two.  Nothing in the parts is quoted, so an address may hold
both signs.  The key can be taken apart nevertheless: what stands before the first `@` is the
account, provided that no account holds one, and what stands behind the last colon is the port.
-/
import Mathlib.Tactic.Common
import OnionSwarm.Batch.Rules
import OnionSwarm.Proofs.Text.Decimal

namespace OnionSwarm

/-- Two lists that are parted where they first hold an element have the same parts. -/
theorem parts_of_first {α : Type} {sep : α} {front back front' back' : List α} (out : sep ∉ front)
    (out' : sep ∉ front') (same : front ++ sep :: back = front' ++ sep :: back') :
    front = front' ∧ back = back' := by
  induction front generalizing front' with
  | nil =>
    cases front' with
    | nil => exact ⟨rfl, (List.cons.inj same).2⟩
    | cons a rest =>
      obtain rfl := (List.cons.inj same).1
      exact (out' (List.mem_cons_self ..)).elim
  | cons a front ih =>
    cases front' with
    | nil =>
      obtain rfl := (List.cons.inj same).1
      exact (out (List.mem_cons_self ..)).elim
    | cons b front' =>
      obtain ⟨rfl, rest⟩ := List.cons.inj same
      obtain ⟨rfl, rfl⟩ := ih (fun mem => out (List.mem_cons_of_mem _ mem))
        (fun mem => out' (List.mem_cons_of_mem _ mem)) rest
      exact ⟨rfl, rfl⟩

/-- Two lists that are parted where they last hold an element have the same parts. -/
theorem parts_of_last {α : Type} {sep : α} {front back front' back' : List α} (out : sep ∉ back)
    (out' : sep ∉ back') (same : front ++ sep :: back = front' ++ sep :: back') :
    front = front' ∧ back = back' := by
  have mirrored := congrArg List.reverse same
  simp only [List.reverse_append, List.reverse_cons, List.append_assoc, List.singleton_append]
    at mirrored
  obtain ⟨behind, before⟩ := parts_of_first (by rwa [List.mem_reverse])
    (by rwa [List.mem_reverse]) mirrored
  exact ⟨List.reverse_inj.1 before, List.reverse_inj.1 behind⟩

theorem Node.toList_url (n : Node) :
    n.url.toList = n.address.toList ++ ':' :: Nat.toDigits 10 n.port := by
  rw [url, String.toList_append, String.toList_append, Nat.toString_eq_repr, Nat.toList_repr,
    List.append_assoc]
  rfl

/-- **The URL tells the site.** -/
theorem Node.url_eq_iff {a b : Node} : a.url = b.url ↔ a.site = b.site := by
  constructor
  · intro same
    have texts := congrArg String.toList same
    rw [toList_url, toList_url] at texts
    have noColon : ∀ port, ':' ∉ Nat.toDigits 10 port := by
      intro port mem
      exact absurd (Text.Decimal.digit_range mem).2 (by decide)
    obtain ⟨address, port⟩ := parts_of_last (noColon _) (noColon _) texts
    have ports := congrArg (Nat.ofDigitChars 10 · 0) port
    simp only [Nat.ofDigitChars_ten_toDigits] at ports
    rw [site, site, String.toList_inj.1 address, ports]
  · intro same
    obtain ⟨address, port⟩ := Site.mk.inj same
    rw [url, url, address, port]

namespace Batch

theorem swarmKey?_of_free {c : SwarmCall} (batchable : c.call.method ∈ methods)
    (free : c.forced = none) : swarmKey? c = some c.account := by
  rw [swarmKey?, if_pos batchable, free]

theorem swarmKey?_of_forced {c : SwarmCall} (batchable : c.call.method ∈ methods) {n : Node}
    (forced : c.forced = some n) : swarmKey? c = some (c.account ++ "@" ++ n.url) := by
  rw [swarmKey?, if_pos batchable, forced]

/-- No `@` is in the account of the call. -/
def Plain (c : SwarmCall) : Prop := '@' ∉ c.account.toList

instance (c : SwarmCall) : Decidable (Plain c) := inferInstanceAs (Decidable (¬ _))

theorem ne_forcedKey {account account' url : String} (plain : '@' ∉ account.toList) :
    account ≠ account' ++ "@" ++ url := by
  rintro rfl
  refine plain ?_
  rw [String.toList_append, String.toList_append]
  exact List.mem_append_left _ (List.mem_append_right _ (List.mem_cons_self ..))

theorem forcedKey_inj {account account' url url' : String} (plain : '@' ∉ account.toList)
    (plain' : '@' ∉ account'.toList) (same : account ++ "@" ++ url = account' ++ "@" ++ url') :
    account = account' ∧ url = url' := by
  have texts := congrArg String.toList same
  simp only [String.toList_append, List.append_assoc] at texts
  obtain ⟨accounts, urls⟩ := parts_of_first plain plain' texts
  exact ⟨String.toList_inj.1 accounts, String.toList_inj.1 urls⟩

/-- **Two calls share a key if they are for the same account and are forced to the same node, or
not at all.** -/
theorem swarmKey?_eq_iff {c c' : SwarmCall} (batchable : c.call.method ∈ methods)
    (batchable' : c'.call.method ∈ methods) (plain : Plain c) (plain' : Plain c') :
    swarmKey? c = swarmKey? c' ↔
      c.account = c'.account ∧ c.forced.map Node.site = c'.forced.map Node.site := by
  cases forced : c.forced with
  | none =>
    rw [swarmKey?_of_free batchable forced]
    cases forced' : c'.forced with
    | none => simp [swarmKey?_of_free batchable' forced']
    | some n => simp [swarmKey?_of_forced batchable' forced', ne_forcedKey plain]
  | some m =>
    rw [swarmKey?_of_forced batchable forced]
    cases forced' : c'.forced with
    | none => simp [swarmKey?_of_free batchable' forced', (ne_forcedKey plain').symm]
    | some n =>
      rw [swarmKey?_of_forced batchable' forced', Option.map_some, Option.map_some,
        Option.some_inj, Option.some_inj, ← Node.url_eq_iff]
      constructor
      · exact forcedKey_inj plain plain'
      · rintro ⟨accounts, urls⟩
        rw [accounts, urls]

end Batch
end OnionSwarm

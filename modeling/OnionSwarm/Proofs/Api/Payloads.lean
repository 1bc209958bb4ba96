/-
Which calls to the storage are signed with the same bytes.

What is signed of a call is written without anything between its parts, so the bytes do not always
tell where a part ends.  The digits of a namespace and those of a time stand side by side, and the
first digits of the time may as well be the last ones of another namespace (`Shifted`).  That is the
only way for two stores to look alike, because neither number is written with a zero in front, and
it takes two times of different length.  Of the hashes of a call that deletes, no more can be told
than the text that they make together; if none of them begins another one, that is enough to find
them again.  The first letter tells the two kinds of call apart.
-/
import OnionSwarm.Api.Storage
import OnionSwarm.Proofs.Text.Decimal

namespace OnionSwarm

/-- The signature that a call carries. -/
def NodeCall.signature? (c : NodeCall) : Option String :=
  (c.params.get? "signature").bind Json.asText?

namespace Storage

open Text.Decimal (encode encode_append encode_ne_nil encode_injective)

/-! ### Namespaces -/

/-- A namespace as it is signed. -/
def nspaceBytes (nspace : Int) : Bytes :=
  if nspace = 0 then [] else Bytes.ofString (toString nspace)

theorem storePayload_eq (nspace : Int) (time : Nat) :
    storePayload nspace time = Bytes.ofString "store" ++ (nspaceBytes nspace ++ encode time) := by
  rw [storePayload, Text.Decimal.ofString_toString, List.append_assoc, nspaceBytes]

@[simp] theorem nspaceBytes_zero : nspaceBytes 0 = [] := rfl

theorem nspaceBytes_natCast {n : Nat} (pos : 0 < n) : nspaceBytes n = encode n := by
  rw [nspaceBytes, if_neg (by omega)]
  exact Text.Decimal.ofString_toString n

theorem nspaceBytes_neg {n : Nat} (pos : 0 < n) : nspaceBytes (-n) = 45 :: encode n := by
  obtain ⟨m, rfl⟩ := Nat.exists_eq_add_of_lt pos
  rw [nspaceBytes, if_neg (by omega), Nat.zero_add]
  exact Text.Decimal.ofString_toString_negSucc m

/-- Zero, a number that is written with its digits alone, or one with a minus sign before them. -/
theorem nspace_cases (nspace : Int) :
    nspace = 0 ∨ ∃ n : Nat, 0 < n ∧ (nspace = n ∨ nspace = -n) := by
  obtain ⟨n, form⟩ := Int.eq_nat_or_neg nspace
  rcases Nat.eq_zero_or_pos n with rfl | pos
  · exact .inl (by omega)
  · exact .inr ⟨n, pos, form⟩

theorem nspaceBytes_injective : Function.Injective nspaceBytes := by
  have unsigned (n : Nat) (bs : Bytes) : encode n ≠ 45 :: bs := by
    intro same
    have range := Text.Decimal.range_of_mem_encode (n := n) (same ▸ List.mem_cons_self)
    exact absurd range.1 (by decide)
  intro i j same
  -- zero has no bytes, and only what is below zero begins with a minus sign
  rcases nspace_cases i with rfl | ⟨m, mPos, rfl | rfl⟩ <;>
    rcases nspace_cases j with rfl | ⟨n, nPos, rfl | rfl⟩
  · rfl
  · rw [nspaceBytes_natCast nPos] at same
    exact absurd same.symm (encode_ne_nil n)
  · rw [nspaceBytes_neg nPos] at same
    cases same
  · rw [nspaceBytes_natCast mPos] at same
    exact absurd same (encode_ne_nil m)
  · rw [nspaceBytes_natCast mPos, nspaceBytes_natCast nPos] at same
    rw [encode_injective same]
  · rw [nspaceBytes_natCast mPos, nspaceBytes_neg nPos] at same
    exact absurd same (unsigned m _)
  · rw [nspaceBytes_neg mPos] at same
    cases same
  · rw [nspaceBytes_neg mPos, nspaceBytes_natCast nPos] at same
    exact absurd same.symm (unsigned n _)
  · rw [nspaceBytes_neg mPos, nspaceBytes_neg nPos] at same
    rw [encode_injective (List.cons.inj same).2]

/-- The namespace with more digits behind its own; zero has none. -/
def lengthened (nspace : Int) (more : Nat) : Int :=
  let digits : Int := nspace.natAbs * 10 ^ (encode more).length + more
  if nspace < 0 then -digits else digits

theorem nspaceBytes_lengthened (nspace : Int) {more : Nat} (pos : 0 < more) :
    nspaceBytes (lengthened nspace more) = nspaceBytes nspace ++ encode more := by
  rcases nspace_cases nspace with rfl | ⟨n, nPos, rfl | rfl⟩
  · have form : lengthened 0 more = more := by simp [lengthened]
    rw [form, nspaceBytes_natCast pos, nspaceBytes_zero, List.nil_append]
  · have form : lengthened n more = (n * 10 ^ (encode more).length + more : Nat) := by
      simp [lengthened]
    rw [form, nspaceBytes_natCast (by omega), nspaceBytes_natCast nPos, encode_append nPos]
  · have form : lengthened (-n) more = -(n * 10 ^ (encode more).length + more : Nat) := by
      simp [lengthened, nPos]
    rw [form, nspaceBytes_neg (by omega), nspaceBytes_neg nPos, encode_append nPos,
      List.cons_append]

/-! ### Stores -/

/-- The first digits of one time are the last digits of the other namespace instead. -/
def Shifted (nspace : Int) (time : Nat) (nspace' : Int) (time' : Nat) : Prop :=
  ∃ digits, 0 < digits ∧ time = digits * 10 ^ (encode time').length + time' ∧
    nspace' = lengthened nspace digits

variable {nspace nspace' : Int} {time time' : Nat}

theorem Shifted.encode_eq (shifted : Shifted nspace time nspace' time') :
    ∃ digits, encode time = encode digits ++ encode time' ∧
      nspaceBytes nspace' = nspaceBytes nspace ++ encode digits := by
  obtain ⟨digits, pos, rfl, rfl⟩ := shifted
  exact ⟨digits, encode_append pos time', nspaceBytes_lengthened nspace pos⟩

theorem Shifted.storePayload_eq (shifted : Shifted nspace time nspace' time') :
    storePayload nspace time = storePayload nspace' time' := by
  obtain ⟨digits, times, nspaces⟩ := shifted.encode_eq
  rw [Storage.storePayload_eq, Storage.storePayload_eq, times, nspaces, List.append_assoc]

theorem Shifted.length_lt (shifted : Shifted nspace time nspace' time') :
    (encode time').length < (encode time).length := by
  obtain ⟨digits, times, -⟩ := shifted.encode_eq
  have some := List.length_pos_of_ne_nil (encode_ne_nil digits)
  rw [times, List.length_append]
  omega

/-- What stands between the end of one namespace and that of the other one is shifted. -/
theorem same_or_shifted {between : Bytes} (nspaces : nspaceBytes nspace' = nspaceBytes nspace ++ between)
    (times : encode time = between ++ encode time') :
    (nspace = nspace' ∧ time = time') ∨ Shifted nspace time nspace' time' := by
  by_cases none : between = []
  · subst none
    rw [List.append_nil] at nspaces
    exact .inl ⟨nspaceBytes_injective nspaces.symm, encode_injective times⟩
  · obtain ⟨digits, pos, rfl, value⟩ := (Text.Decimal.encode_eq_append_iff none).1 times
    refine .inr ⟨digits, pos, value, nspaceBytes_injective ?_⟩
    rw [nspaces, nspaceBytes_lengthened nspace pos]

/-- **Two stores are signed alike exactly if they are the same, or digits are shifted from the time
of one to the namespace of the other.** -/
theorem storePayload_eq_iff :
    storePayload nspace time = storePayload nspace' time' ↔
      (nspace = nspace' ∧ time = time') ∨ Shifted nspace time nspace' time' ∨
        Shifted nspace' time' nspace time := by
  constructor
  · intro same
    rw [storePayload_eq, storePayload_eq] at same
    rcases List.append_eq_append_iff.1 (List.append_cancel_left same) with
      ⟨between, nspaces, times⟩ | ⟨between, nspaces, times⟩
    · exact (same_or_shifted nspaces times).imp_right .inl
    · rcases same_or_shifted nspaces times with ⟨rfl, rfl⟩ | shifted
      · exact .inl ⟨rfl, rfl⟩
      · exact .inr (.inr shifted)
  · rintro (⟨rfl, rfl⟩ | shifted | shifted)
    · rfl
    · exact shifted.storePayload_eq
    · exact shifted.storePayload_eq.symm

/-! ### Deletions -/

theorem deletePayload_eq (hashes : List String) :
    deletePayload hashes = Bytes.ofString "delete" ++ Bytes.ofString (String.join hashes) := by
  have joined : hashes.flatMap Bytes.ofString = Bytes.ofString (String.join hashes) := by
    rw [Bytes.ofString, String.toList_join, List.flatMap_assoc]
    rfl
  rw [deletePayload, joined]

/-- **Two deletions are signed alike exactly if their hashes make the same text.** -/
theorem deletePayload_eq_iff {hashes hashes' : List String} :
    deletePayload hashes = deletePayload hashes' ↔ String.join hashes = String.join hashes' := by
  rw [deletePayload_eq, deletePayload_eq]
  constructor
  · exact fun same => Text.Utf8.ofString_injective (List.append_cancel_left same)
  · exact fun same => by rw [same]

/-- Hashes that can be told from each other where they begin: none is empty, and none of the one list
begins another one of the other list. -/
structure Separable (hashes hashes' : List String) : Prop where
  nonempty : ∀ h ∈ hashes ++ hashes', h ≠ ""
  apart : ∀ h ∈ hashes, ∀ h' ∈ hashes',
    h.toList <+: h'.toList ∨ h'.toList <+: h.toList → h = h'

/-- Hashes of one length can be told from each other. -/
theorem separable_of_length {hashes hashes' : List String} {length : Nat} (pos : 0 < length)
    (same : ∀ h ∈ hashes ++ hashes', h.length = length) : Separable hashes hashes' := by
  constructor
  · rintro h mem rfl
    exact absurd (same "" mem) (by rw [String.length_empty]; omega)
  · intro h mem h' mem' either
    have count := same h (List.mem_append_left _ mem)
    have count' := same h' (List.mem_append_right _ mem')
    rw [← String.length_toList] at count count'
    rcases either with begins | begins
    · exact String.toList_inj.1 (begins.eq_of_length (by omega))
    · exact String.toList_inj.1 (begins.eq_of_length (by omega)).symm

/-- Hashes that are not empty make a text. -/
theorem eq_nil_of_flatMap {hashes : List String} (nonempty : ∀ h ∈ hashes, h ≠ "")
    (texts : hashes.flatMap String.toList = []) : hashes = [] := by
  refine List.eq_nil_iff_forall_not_mem.2 fun h mem => nonempty h mem ?_
  exact String.toList_eq_nil_iff.1 (List.flatMap_eq_nil_iff.1 texts h mem)

theorem Separable.tails {h h' : String} {rest rest' : List String}
    (separable : Separable (h :: rest) (h' :: rest')) : Separable rest rest' := by
  constructor
  · intro a mem
    refine separable.nonempty a ?_
    rcases List.mem_append.1 mem with mem | mem <;> simp [mem]
  · exact fun a mem b mem' =>
      separable.apart a (List.mem_cons_of_mem _ mem) b (List.mem_cons_of_mem _ mem')

/-- Such hashes are found again in the text that they make: of two that begin it, one begins the
other, and so they are the same. -/
theorem Separable.eq_of_join {hashes hashes' : List String} (separable : Separable hashes hashes')
    (same : String.join hashes = String.join hashes') : hashes = hashes' := by
  have texts := congrArg String.toList same
  rw [String.toList_join, String.toList_join] at texts
  clear same
  induction hashes generalizing hashes' with
  | nil => exact (eq_nil_of_flatMap separable.nonempty texts.symm).symm
  | cons h rest ih =>
    cases hashes' with
    | nil =>
      refine eq_nil_of_flatMap (fun a mem => separable.nonempty a ?_) texts
      exact List.mem_append_left _ mem
    | cons h' rest' =>
      rw [List.flatMap_cons, List.flatMap_cons] at texts
      have begins : h.toList <+: h'.toList ∨ h'.toList <+: h.toList :=
        List.prefix_or_prefix_of_prefix (List.prefix_append _ _)
          ⟨rest'.flatMap String.toList, texts.symm⟩
      obtain rfl := separable.apart h List.mem_cons_self h' List.mem_cons_self begins
      rw [ih separable.tails (List.append_cancel_left texts)]

/-! ### Signatures -/

theorem storePayload_ne_deletePayload (nspace : Int) (time : Nat) (hashes : List String) :
    storePayload nspace time ≠ deletePayload hashes := by
  intro same
  rw [storePayload_eq, deletePayload_eq] at same
  have first := congrArg List.head? same
  rw [List.head?_append_of_ne_nil _ (by decide), List.head?_append_of_ne_nil _ (by decide)] at first
  exact absurd first (by decide)

theorem signature?_store (who : Identity) (m : Message) (time : Nat) :
    (store who m time).signature? = some (who.sign (storePayload m.nspace time)) := by
  have signature : (store who m time).params.get? "signature"
      = some (.text (who.sign (storePayload m.nspace time))) := by
    simp only [store, ne_eq, String.reduceEq, not_false_eq_true, Json.get?_ofMembers_of_ne]
    exact Json.get?_ofMembers_self _ rfl
  rw [NodeCall.signature?, signature]
  rfl

theorem signature?_delete (who : Identity) (hashes : List String) :
    (delete who hashes).signature? = some (who.sign (deletePayload hashes)) := by
  have signature : (delete who hashes).params.get? "signature"
      = some (.text (who.sign (deletePayload hashes))) := by
    simp only [delete, ne_eq, String.reduceEq, not_false_eq_true, Json.get?_ofMembers_of_ne]
    exact Json.get?_ofMembers_self _ rfl
  rw [NodeCall.signature?, signature]
  rfl

/-- **Which calls are signed alike.**

Two stores are if they are the same, or digits are shifted from the time of one to the namespace of
the other, so that they are the same whenever their times have equally many digits.  Two deletions
are if their hashes make the same text, so that they are the same whenever their hashes can be told
from each other, as those of one length can.  A store and a deletion never are.  And what is signed
of a call is all that its signature depends on. -/
theorem signed_alike_iff :
    (∀ (nspace nspace' : Int) (time time' : Nat),
      (storePayload nspace time = storePayload nspace' time' ↔
        (nspace = nspace' ∧ time = time') ∨ Shifted nspace time nspace' time' ∨
          Shifted nspace' time' nspace time) ∧
      ((encode time).length = (encode time').length →
        storePayload nspace time = storePayload nspace' time' → nspace = nspace' ∧ time = time')) ∧
    (∀ hashes hashes' : List String,
      (deletePayload hashes = deletePayload hashes' ↔ String.join hashes = String.join hashes') ∧
      (Separable hashes hashes' → deletePayload hashes = deletePayload hashes' →
        hashes = hashes') ∧
      ∀ length, 0 < length → (∀ h ∈ hashes ++ hashes', h.length = length) →
        deletePayload hashes = deletePayload hashes' → hashes = hashes') ∧
    (∀ (nspace : Int) (time : Nat) (hashes : List String),
      storePayload nspace time ≠ deletePayload hashes) ∧
    ∀ who : Identity,
      (∀ (m : Message) (time : Nat),
        (store who m time).signature? = some (who.sign (storePayload m.nspace time))) ∧
      ∀ hashes : List String,
        (delete who hashes).signature? = some (who.sign (deletePayload hashes)) := by
  refine ⟨fun nspace nspace' time time' => ⟨storePayload_eq_iff, fun digits same => ?_⟩,
    fun hashes hashes' => ⟨deletePayload_eq_iff, fun separable same => ?_,
      fun length pos each same => ?_⟩,
    storePayload_ne_deletePayload,
    fun who => ⟨signature?_store who, signature?_delete who⟩⟩
  · rcases storePayload_eq_iff.1 same with equal | shifted | shifted
    · exact equal
    · have := shifted.length_lt
      omega
    · have := shifted.length_lt
      omega
  · exact separable.eq_of_join (deletePayload_eq_iff.1 same)
  · exact (separable_of_length pos each).eq_of_join (deletePayload_eq_iff.1 same)

/-- At two times of thirteen digits the namespaces 5 and 51 are told apart, and so are two hashes of
two letters in either order. -/
theorem signed_alike_iff_thirteen :
    storePayload 5 1700000000000 ≠ storePayload 51 7000000000000 ∧
    deletePayload ["aa", "bb"] ≠ deletePayload ["bb", "aa"] := by
  constructor
  · intro same
    exact absurd ((signed_alike_iff.1 5 51 1700000000000 7000000000000).2 (by decide) same).1
      (by decide)
  · intro same
    exact absurd ((signed_alike_iff.2.1 ["aa", "bb"] ["bb", "aa"]).2.2 2 (by decide) (by decide) same)
      (by decide)

/-- A time of fourteen digits in the namespace zero is signed as one of thirteen digits in the
namespace 5, and two hashes as the one that they make together. -/
theorem payloads_shared :
    storePayload 0 51700000000000 = storePayload 5 1700000000000 ∧
    deletePayload ["aa", "bb"] = deletePayload ["aabb"] ∧ ["aa", "bb"] ≠ ["aabb"] := by
  decide +kernel

end Storage
end OnionSwarm

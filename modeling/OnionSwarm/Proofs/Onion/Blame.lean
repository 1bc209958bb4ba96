/-
Whom an error reply of a guard blames.

The reply is read by trying one marker after another.  No marker is the beginning of another one, so
the order in which they are tried does not matter: a text begins with one of them at most, and what
it says can be stated marker by marker (`Blames`).
-/
import Mathlib.Tactic.Common
import OnionSwarm.Onion.GuardReply

namespace OnionSwarm.GuardReply

/-- An error reply with the given status and text blames the node with some key. -/
inductive Blames (guardNode : Node) (code : Nat) (text : String) : String → Prop
  /-- A hop does not know the next node, or cannot reach it. -/
  | unreachable {marker rest : String} (known : marker ∈ unreachableMarkers)
    (form : text = marker ++ rest) : Blames guardNode code text (Text.trim rest)
  /-- A hop is not ready. -/
  | notReady {rest : String} (status : code = notReadyStatus)
    (form : text = notReadyMarker ++ rest) : Blames guardNode code text (Text.trim rest)
  /-- The guard itself is not ready. -/
  | guardNotReady {marker rest : String} (status : code = notReadyStatus)
    (known : marker ∈ guardNotReadyMarkers) (form : text = marker ++ rest) :
    Blames guardNode code text guardNode.key

/-! ### Markers -/

theorem after?_append (marker rest : String) : after? marker (marker ++ rest) = some rest := by
  have within : marker.toList.isPrefixOf (marker ++ rest).toList = true := by
    rw [String.toList_append]
    exact List.isPrefixOf_iff_prefix.2 (List.prefix_append _ _)
  rw [after?, if_pos within, String.toList_append, ← String.length_toList, List.drop_left,
    String.ofList_toList]

theorem append_of_after? {marker text rest : String} (found : after? marker text = some rest) :
    text = marker ++ rest := by
  unfold after? at found
  split at found
  · rename_i within
    obtain ⟨tail, form⟩ := List.isPrefixOf_iff_prefix.1 within
    obtain rfl := Option.some.inj found
    rw [← form, ← String.length_toList, List.drop_left]
    apply String.toList_inj.1
    rw [String.toList_append, String.toList_ofList, form]
  · cases found

theorem begins_iff {marker text : String} :
    begins marker text = true ↔ ∃ rest, text = marker ++ rest := by
  constructor
  · intro within
    cases found : after? marker text with
    | some rest => exact ⟨rest, append_of_after? found⟩
    | none =>
      rw [after?, if_pos (show marker.toList.isPrefixOf text.toList = true from within)] at found
      cases found
  · rintro ⟨rest, rfl⟩
    have found := after?_append marker rest
    unfold after? at found
    split at found
    · assumption
    · cases found

/-- Neither text is the beginning of the other. -/
def Apart (a b : String) : Prop := ¬ a.toList <+: b.toList ∧ ¬ b.toList <+: a.toList

instance (a b : String) : Decidable (Apart a b) := inferInstanceAs (Decidable (_ ∧ _))

theorem after?_of_apart {marker other : String} (apart : Apart marker other) (rest : String) :
    after? marker (other ++ rest) = none := by
  cases found : after? marker (other ++ rest) with
  | none => rfl
  | some tail =>
    have both := congrArg String.toList (append_of_after? found)
    rw [String.toList_append, String.toList_append] at both
    have first : marker.toList <+: other.toList ++ rest.toList := both ▸ List.prefix_append _ _
    rcases List.prefix_or_prefix_of_prefix first (List.prefix_append _ _) with before | before
    · exact (apart.1 before).elim
    · exact (apart.2 before).elim

theorem findSome?_of_apart {markers : List String} {other : String}
    (apart : ∀ m ∈ markers, Apart m other) (rest : String) :
    markers.findSome? (after? · (other ++ rest)) = none :=
  List.findSome?_eq_none_iff.2 fun m mem => after?_of_apart (apart m mem) rest

/-- Of several markers the one that the text begins with is found, wherever it stands. -/
theorem findSome?_of_mem {markers : List String} (pairwise : markers.Pairwise Apart)
    {marker : String} (mem : marker ∈ markers) (rest : String) :
    markers.findSome? (after? · (marker ++ rest)) = some rest := by
  induction markers with
  | nil => cases mem
  | cons first more ih =>
    obtain ⟨apart, pairwise⟩ := List.pairwise_cons.1 pairwise
    rcases List.mem_cons.1 mem with rfl | later
    · rw [List.findSome?_cons, after?_append]
    · rw [List.findSome?_cons, after?_of_apart (apart marker later)]
      exact ih pairwise later

/-! ### Blame -/

theorem blames_of_blamedKey? {guardNode : Node} {code : Nat} {text key : String}
    (found : blamedKey? guardNode code text = some key) : Blames guardNode code text key := by
  unfold blamedKey? at found
  split at found
  · rename_i rest unreachable
    obtain ⟨marker, known, form⟩ := List.exists_of_findSome?_eq_some unreachable
    obtain rfl := Option.some.inj found
    exact .unreachable known (append_of_after? form)
  · split at found
    · rename_i status
      split at found
      · rename_i rest notReady
        obtain rfl := Option.some.inj found
        exact .notReady status (append_of_after? notReady)
      · split at found
        · rename_i guardNotReady
          obtain ⟨marker, known, form⟩ := List.any_eq_true.1 guardNotReady
          obtain ⟨rest, form⟩ := begins_iff.1 form
          obtain rfl := Option.some.inj found
          exact .guardNotReady status known form
        · cases found
    · cases found

/-- **A guard's reply is read as it is written.** -/
theorem blamedKey?_eq_some_iff {guardNode : Node} {code : Nat} {text key : String} :
    blamedKey? guardNode code text = some key ↔ Blames guardNode code text key := by
  refine ⟨blames_of_blamedKey?, fun blames => ?_⟩
  unfold blamedKey?
  cases blames with
  | unreachable known form =>
    rw [form, findSome?_of_mem (by decide) known]
  | notReady status form =>
    rw [form, findSome?_of_apart (by decide)]
    simp only [if_pos status, after?_append]
  | @guardNotReady marker rest status known form =>
    have apart : ∀ m ∈ guardNotReadyMarkers,
        (∀ u ∈ unreachableMarkers, Apart u m) ∧ Apart notReadyMarker m := by decide
    have any : guardNotReadyMarkers.any (begins · text) = true :=
      List.any_eq_true.2 ⟨marker, known, begins_iff.2 ⟨rest, form⟩⟩
    have reachable : unreachableMarkers.findSome? (after? · text) = none := by
      rw [form, findSome?_of_apart (apart marker known).1]
    have notHop : after? notReadyMarker text = none := by
      rw [form, after?_of_apart (apart marker known).2]
    simp only [reachable, if_pos status, notHop, any, if_true]

theorem blamedKey?_eq_none_iff {guardNode : Node} {code : Nat} {text : String} :
    blamedKey? guardNode code text = none ↔ ∀ key, ¬ Blames guardNode code text key := by
  simp only [← blamedKey?_eq_some_iff, Option.eq_none_iff_forall_ne_some]

end OnionSwarm.GuardReply

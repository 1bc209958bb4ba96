/-
Which answers of a guard read as the word of a node that it does not serve an account.

There are two kinds.  One is a reply that was sealed with the key of the innermost layer, which the
node alone can do (`Refuses`).  The other is a plain error of the guard that passes for it: its
status is one of the two, and its text demands blinded ids (`GuardReply.isDisguised`).  No other
answer does, and the plain ones never bring a list of nodes along.
-/
import Mathlib.Tactic.Common
import OnionSwarm.Client.SwarmApi

namespace OnionSwarm

namespace SwarmApi

theorem membershipBody?_congr {f g : ApiFailure} (same : f.onion? = g.onion?) :
    membershipBody? f = membershipBody? g := by
  rw [membershipBody?, membershipBody?, same]

theorem membershipBody?_of_onion? {f : ApiFailure} {cause : OnionFailure}
    (means : f.onion? = some cause) : membershipBody? f = membershipBody? (.onion cause) :=
  membershipBody?_congr means

theorem membershipBody?_refused (status : Status) :
    membershipBody? (.onion (.destinationRefused status))
      = if status.code ∈ membershipCodes then some status.body else none := rfl

end SwarmApi

open SwarmApi

/-! ### Plain replies -/

namespace GuardReply

/-- Does an error reply of the guard itself pass for the word of a destination that it does not
serve the account? -/
def isDisguised (code : Nat) (body : Bytes) : Bool :=
  let text := Text.Utf8.lossy body
  code ∈ membershipCodes && occurs blindingRequired.toList text.toList &&
    !unreachableMarkers.any (begins · text)

theorem isSome_after? (marker text : String) : (after? marker text).isSome = begins marker text := by
  unfold after? begins
  split <;> simp [*]

theorem isSome_blamedKey? {code : Nat} (other : code ≠ notReadyStatus) (guardNode : Node)
    (text : String) :
    (blamedKey? guardNode code text).isSome = unreachableMarkers.any (begins · text) := by
  have named : (unreachableMarkers.findSome? (after? · text)).isSome
      = unreachableMarkers.any (begins · text) := by
    simp only [List.isSome_findSome?, isSome_after?]
  rw [← named, blamedKey?]
  cases unreachableMarkers.findSome? (after? · text) with
  | some key => rfl
  | none => rw [if_neg other]

theorem ne_notReadyStatus {code : Nat} (member : code ∈ membershipCodes) :
    code ≠ notReadyStatus := by
  rintro rfl
  exact absurd member (by decide)

theorem not_mem_harmlessStatuses {code : Nat} (member : code ∈ membershipCodes) :
    code ∉ harmlessStatuses := by
  intro harmless
  simp only [membershipCodes, harmlessStatuses, List.mem_cons, List.not_mem_nil, or_false]
    at member harmless
  omega

theorem membershipBody?_of_blames {guardNode target : Node} {code : Nat} {body : Bytes}
    {key : String} (blames : blamedKey? guardNode code (Text.Utf8.lossy body) = some key) :
    membershipBody? (.onion (classify guardNode (.node target) code body)) = none := by
  simp only [classify, blames]
  split <;> rfl

theorem membershipBody?_of_blamesNone {guardNode target : Node} {code : Nat} {body : Bytes}
    (blames : blamedKey? guardNode code (Text.Utf8.lossy body) = none)
    (member : code ∈ membershipCodes) :
    membershipBody? (.onion (classify guardNode (.node target) code body))
      = if occurs blindingRequired.toList (Text.Utf8.lossy body).toList then some none else none := by
  simp only [classify, blames]
  cases occurs blindingRequired.toList (Text.Utf8.lossy body).toList with
  | true => simp [membershipBody?_refused, member]
  | false =>
    simp only [not_mem_harmlessStatuses member]
    rfl

/-- A plain reply says that the destination does not serve the account if it is disguised, and no
list of nodes ever comes with it. -/
theorem membershipBody?_classify (guardNode target : Node) (code : Nat) (body : Bytes) :
    membershipBody? (.onion (classify guardNode (.node target) code body))
      = if isDisguised code body then some none else none := by
  by_cases member : code ∈ membershipCodes
  · have blamed := isSome_blamedKey? (ne_notReadyStatus member) guardNode (Text.Utf8.lossy body)
    cases blames : blamedKey? guardNode code (Text.Utf8.lossy body) with
    | some key =>
      rw [blames] at blamed
      rw [membershipBody?_of_blames blames]
      simp [isDisguised, ← blamed]
    | none =>
      rw [blames] at blamed
      rw [membershipBody?_of_blamesNone blames member]
      simp [isDisguised, ← blamed, member]
  · have plain : isDisguised code body = false := by simp [isDisguised, member]
    rw [plain, classify]
    -- whatever is made of the reply, its status is that of the reply
    split
    · split <;> rfl
    · split
      · rw [membershipBody?_refused, if_neg member]
        rfl
      · rfl

/-- No plain reply is a complaint about the time. -/
theorem classify_ne_clockSkew (guardNode : Node) (destination : Destination) (code : Nat)
    (body : Bytes) (status : Status) :
    classify guardNode destination code body ≠ .clockSkew status := by
  intro skew
  unfold classify at skew
  dsimp only at skew
  split at skew
  · split at skew <;> cases skew
  · split at skew <;> cases skew

end GuardReply

/-! ### Sealed replies -/

/-- The destination says, sealed with the key of the innermost layer, that it does not serve the
account; a list of nodes may come with it. -/
def Refuses (cipher : LayerCipher) (onion : Onion) (reply : HttpReply) (body : Option Bytes) : Prop :=
  isSuccess reply.status = true ∧ ∃ bytes info code,
    cipher.decrypt reply.body onion.replyKey = .ok bytes ∧
      Framing.decodeMessage bytes = .ok (info, body) ∧
      Exchange.code? info = some code ∧ code ∈ membershipCodes

namespace Exchange

theorem membershipBody?_judge {target : Node} {info : Json} {body : Option Bytes}
    {cause : OnionFailure} (judged : judge (.node target) info body = .error cause)
    {said : Option Bytes} (member : membershipBody? (.onion cause) = some said) :
    said = body ∧ ∃ code, code? info = some code ∧ code ∈ membershipCodes := by
  unfold judge at judged
  cases coded : code? info with
  | none =>
    rw [coded] at judged
    obtain rfl := Except.error.inj judged
    cases member
  | some code =>
    simp only [coded] at judged
    split at judged
    · obtain rfl := Except.error.inj judged
      cases member
    · split at judged
      · cases judged
      · obtain rfl := Except.error.inj judged
        rw [membershipBody?_refused] at member
        by_cases isMember : code ∈ membershipCodes
        · rw [if_pos isMember] at member
          exact ⟨(Option.some.inj member).symm, code, rfl, isMember⟩
        · rw [if_neg isMember] at member
          cases member

/-- A guard's answer says that the destination does not serve the account only if the destination
says so itself, or in the disguise of a plain reply. -/
theorem membershipBody?_readAnswer {cipher : LayerCipher} {onion : Onion} {target : Node}
    {answer : Except HttpFailure HttpReply} {cause : OnionFailure}
    (failed : readAnswer cipher onion (.node target) answer = .error cause) {said : Option Bytes}
    (member : membershipBody? (.onion cause) = some said) :
    ∃ reply, answer = .ok reply ∧
      (isSuccess reply.status = false ∧ GuardReply.isDisguised reply.status reply.body = true ∨
        Refuses cipher onion reply said) := by
  cases answer with
  | error e =>
    obtain rfl := Except.error.inj failed
    cases member
  | ok reply =>
    refine ⟨reply, rfl, ?_⟩
    rw [readAnswer] at failed
    -- a sealed answer is the word of the destination, and a plain one that of the guard
    split at failed
    · rename_i success
      right
      rw [readReply] at failed
      split at failed
      · obtain rfl := Except.error.inj failed
        cases member
      · rename_i bytes opened
        split at failed
        · obtain rfl := Except.error.inj failed
          cases member
        · rename_i info body decoded
          obtain ⟨rfl, code, coded, isMember⟩ := membershipBody?_judge failed member
          exact ⟨success, bytes, info, code, opened, decoded, coded, isMember⟩
    · rename_i plain
      left
      obtain rfl := Except.error.inj failed
      rw [GuardReply.membershipBody?_classify] at member
      split at member
      · rename_i disguised
        exact ⟨Bool.eq_false_iff.2 plain, disguised⟩
      · cases member

theorem membershipCodes_spec {code : Nat} (member : code ∈ membershipCodes) :
    code ∉ skewCodes ∧ isSuccess code = false := by
  simp only [membershipCodes, List.mem_cons, List.not_mem_nil, or_false] at member
  obtain rfl | rfl := member
  · exact ⟨by decide, rfl⟩
  · exact ⟨by decide, rfl⟩

theorem readAnswer_of_refuses {cipher : LayerCipher} {onion : Onion} {reply : HttpReply}
    {body : Option Bytes} (refuses : Refuses cipher onion reply body) (target : Node) :
    ∃ cause, readAnswer cipher onion (.node target) (.ok reply) = .error cause ∧
      membershipBody? (.onion cause) = some body := by
  obtain ⟨success, bytes, info, code, opened, decoded, coded, member⟩ := refuses
  obtain ⟨noSkew, failed⟩ := membershipCodes_spec member
  rw [readAnswer, if_pos success]
  simp only [readReply, opened, decoded, judge, coded, noSkew, failed]
  refine ⟨_, rfl, ?_⟩
  rw [membershipBody?_refused, if_pos member]
  rfl

end Exchange

end OnionSwarm

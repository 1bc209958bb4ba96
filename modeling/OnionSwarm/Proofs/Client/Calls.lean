/-
One call to one node, from the path to what is made of its failure.

A call asks its guard at most once, and what it comes to is what the guard's answer means
(`Network.comes_rpc`).  The layers above change the decision that a failure comes with, never its
cause, so the cause that a caller sees is still the one that was read from that answer.
-/
import OnionSwarm.Client.Network
import OnionSwarm.Proofs.Client.Errands

namespace OnionSwarm

variable {ω α : Type}

theorem ApiFailure.onion?_withDecision (f : ApiFailure) (d : Decision) :
    (f.withDecision d).onion? = f.onion? := by
  rw [onion?, onion?, cause_withDecision]

/-! ### Along the path -/

theorem Paths.onion?_penalise (path : Path) (cause : OnionFailure) (c : Client ω) :
    (penalise path cause c).1.onion? = some cause := by
  unfold penalise
  cases cause with
  | hopFailed reporter key status =>
    dsimp only
    cases path.hopWithKey? key <;> rfl
  | _ => rfl

namespace Network

variable {n : Network ω} {path : Path} {target : Node} {call : NodeCall} {payload : Bytes}
  {c c' : Client ω}

/-- The onion of a payload and what the guard answers, if there is an onion. -/
def posted? (n : Network ω) (path : Path) (target : Node) (payload : Bytes) (c : Client ω) :
    Option (Onion × Except HttpFailure HttpReply) :=
  match Onion.build n.cipher c.turn path (.node target) payload with
  | .error _ => none
  | .ok onion =>
    match Exchange.requestBody onion with
    | .error _ => none
    | .ok body => some (onion, (n.onionPost (Exchange.guardUrl onion.guardNode) body c.outside).1)

/-- The onion of a call to a node and what the guard answers, if the call gets that far. -/
def asked? (n : Network ω) (target : Node) (call : NodeCall) (c : Client ω) :
    Option (Onion × Except HttpFailure HttpReply) :=
  match Paths.get n.pool n.plan (some target) c with
  | (.error _, _) => none
  | (.ok path, c) => n.posted? path target call.toBytes c

theorem transport_of_posted {onion : Onion} {answer : Except HttpFailure HttpReply}
    (posted : n.posted? path target payload c = some (onion, answer)) :
    (n.transport path (.node target) payload c).1
      = Exchange.readAnswer n.cipher onion (.node target) answer := by
  unfold posted? at posted
  unfold transport Transport.ofCipher Exchange.send
  cases built : Onion.build n.cipher c.turn path (.node target) payload with
  | error e => simp [built] at posted
  | ok onion =>
    cases requested : Exchange.requestBody onion with
    | error e => simp [built, requested] at posted
    | ok body =>
      simp only [built, requested, Option.some.injEq, Prod.mk.injEq] at posted
      obtain ⟨rfl, rfl⟩ := posted
      simp only [requested]
      rfl

theorem requestBody_error {onion : Onion} {cause : OnionFailure}
    (failed : Exchange.requestBody onion = .error cause) : ∃ reason, cause = .other reason := by
  unfold Exchange.requestBody at failed
  dsimp only at failed
  split at failed
  · cases failed
  · exact ⟨_, (Except.error.inj failed).symm⟩

theorem transport_of_posted_eq_none (posted : n.posted? path target payload c = none) :
    ∃ reason, (n.transport path (.node target) payload c).1 = .error (.other reason) := by
  unfold posted? at posted
  unfold transport Transport.ofCipher Exchange.send
  cases built : Onion.build n.cipher c.turn path (.node target) payload with
  | error e => exact ⟨_, rfl⟩
  | ok onion =>
    cases requested : Exchange.requestBody onion with
    | error cause =>
      obtain ⟨reason, rfl⟩ := requestBody_error requested
      exact ⟨reason, by simp only [requested]; rfl⟩
    | ok body => simp [built, requested] at posted

theorem rpc_of_noPath {e : PathFailure}
    (got : Paths.get n.pool n.plan (some target) c = (.error e, c')) :
    (n.rpc target call c).1 = .error (.path e) := by
  unfold rpc NodeRpc.overOnion
  rw [Act.bind_apply, got]
  rfl

theorem rpc_of_path (got : Paths.get n.pool n.plan (some target) c = (.ok path, c')) :
    (n.rpc target call c).1
      = match n.transport path (.node target) call.toBytes c' with
        | (.ok reply, _) => .ok reply
        | (.error cause, c) => .error (Paths.penalise path cause c).1 := by
  unfold rpc NodeRpc.overOnion
  rw [Act.bind_apply, got]
  simp only [Act.bind_apply]
  cases n.transport path (.node target) call.toBytes c' with
  | mk result c =>
    cases result with
    | ok reply => rfl
    | error cause => rfl

/-- What a call to a node comes to. -/
inductive Comes (n : Network ω) (target : Node) (call : NodeCall) (c : Client ω) :
    Except ApiFailure OnionReply → Prop
  | unasked {failure : ApiFailure} (asked : n.asked? target call c = none)
    (means : failure.onion? = none ∨ ∃ reason, failure.onion? = some (.other reason)) :
    Comes n target call c (.error failure)
  | ok {onion : Onion} {answer : Except HttpFailure HttpReply} {reply : OnionReply}
    (asked : n.asked? target call c = some (onion, answer))
    (read : Exchange.readAnswer n.cipher onion (.node target) answer = .ok reply) :
    Comes n target call c (.ok reply)
  | error {onion : Onion} {answer : Except HttpFailure HttpReply} {cause : OnionFailure}
    {failure : ApiFailure} (asked : n.asked? target call c = some (onion, answer))
    (read : Exchange.readAnswer n.cipher onion (.node target) answer = .error cause)
    (means : failure.onion? = some cause) : Comes n target call c (.error failure)

theorem comes_rpc (n : Network ω) (target : Node) (call : NodeCall) (c : Client ω) :
    n.Comes target call c (n.rpc target call c).1 := by
  cases got : Paths.get n.pool n.plan (some target) c with
  | mk path c₁ =>
    cases path with
    | error e =>
      have asked : n.asked? target call c = none := by rw [asked?, got]
      rw [rpc_of_noPath got]
      exact .unasked asked (.inl rfl)
    | ok path =>
      have asked : n.asked? target call c = n.posted? path target call.toBytes c₁ := by
        rw [asked?, got]
      rw [rpc_of_path got]
      cases sent : n.transport path (.node target) call.toBytes c₁ with
      | mk result c₂ =>
        -- an onion that cannot be built is never posted; the answer to any other is read
        cases posted : n.posted? path target call.toBytes c₁ with
        | none =>
          obtain ⟨reason, failed⟩ := transport_of_posted_eq_none posted
          rw [sent] at failed
          obtain rfl : result = .error (.other reason) := failed
          exact .unasked (asked.trans posted)
            (.inr ⟨reason, Paths.onion?_penalise path (.other reason) c₂⟩)
        | some exchange =>
          have read := transport_of_posted posted
          rw [sent] at read
          cases result with
          | ok reply => exact .ok (asked.trans posted) read.symm
          | error cause =>
            exact .error (asked.trans posted) read.symm (Paths.onion?_penalise path cause c₂)

theorem Comes.of_error {result : Except ApiFailure OnionReply} (comes : n.Comes target call c result)
    {onion : Onion} {answer : Except HttpFailure HttpReply} {cause : OnionFailure}
    (asked : n.asked? target call c = some (onion, answer))
    (read : Exchange.readAnswer n.cipher onion (.node target) answer = .error cause) :
    ∃ failure, result = .error failure ∧ failure.onion? = some cause := by
  cases comes with
  | unasked none _ =>
    rw [asked] at none
    cases none
  | ok asked' read' =>
    rw [asked] at asked'
    obtain ⟨rfl, rfl⟩ := asked'
    rw [read] at read'
    cases read'
  | error asked' read' means =>
    rw [asked] at asked'
    obtain ⟨rfl, rfl⟩ := asked'
    rw [read] at read'
    obtain rfl := Except.error.inj read'
    exact ⟨_, rfl, means⟩

theorem errands_rpc {timed : Prop} (n : Network ω) (target : Node) (call : NodeCall) :
    (n.rpc target call).Errands timed :=
  NodeRpc.errands_overOnion _ _ (Transport.errands_ofCipher n.cipher n.onionPost) target call

theorem errands_resync (n : Network ω) : n.clock.resync.Errands True :=
  ClockSource.errands_resync fun target call => (n.errands_rpc target call).map _

theorem keeps_affairs_rpc (n : Network ω) (target : Node) (call : NodeCall) :
    Act.Keeps Client.affairs (n.rpc target call) := (n.errands_rpc target call).keeps_affairs

theorem keeps_rpc (n : Network ω) (target : Node) (call : NodeCall) :
    Act.Keeps Client.standing (n.rpc target call) := (n.keeps_affairs_rpc target call).standing

theorem keeps_resync (n : Network ω) : Act.Keeps Client.bearings n.clock.resync :=
  n.errands_resync.keeps_bearings

end Network

/-! ### What is made of a failure -/

namespace NodeApi

theorem onion?_onFailure (resync : Act ω Bool) (drops : Bool) (target : Node)
    (failure : ApiFailure) (c : Client ω) :
    (onFailure resync drops target failure c).1.onion? = failure.onion? := by
  unfold onFailure
  split
  · rw [Act.bind_apply]
    split
    · exact failure.onion?_withDecision _
    · exact failure.onion?_withDecision _
  · split
    · exact failure.onion?_withDecision _
    · rfl

/-- Whatever is made of a failure, a call goes where it went. -/
theorem keeps_onFailure {resync : Act ω Bool} (kept : Act.Keeps Client.bearings resync)
    (drops : Bool) (target : Node) (failure : ApiFailure) :
    Act.Keeps Client.bearings (onFailure resync drops target failure) := by
  unfold onFailure
  refine .ite (.bind (fun _ => rfl) fun c => ?_) (.ite ?_ (.pure _))
  · exact .ite (.pure _) (.bind Client.bearings_set_sawSkew fun _ => kept.bind fun _ => .pure _)
  · exact (Paths.errands_dropKey _).keeps_bearings.bind fun _ => .pure _

/-- A failure that is no complaint about the time changes neither swarms nor clock. -/
theorem keeps_onFailure_of_not_isSkew (resync : Act ω Bool) (drops : Bool) (target : Node)
    {failure : ApiFailure} (other : isSkew failure = false) :
    Act.Keeps Client.standing (onFailure resync drops target failure) := by
  unfold onFailure
  rw [if_neg (by rw [other]; exact Bool.false_ne_true)]
  exact .ite ((Paths.errands_dropKey _).keeps_affairs.standing.bind fun _ => .pure _) (.pure _)

theorem run_send (rpc : NodeRpc ω) (resync : Act ω Bool) (drops : Bool) (target : Node)
    (call : NodeCall) (pass : Nat → Act ω Unit) (c : Client ω) :
    (send rpc resync drops target call).run pass c
      = match rpc target call c with
        | (.ok reply, c) =>
          (match reply.json with
            | .ok v => .ok v
            | .error e =>
              .error (.malformed (call.method ++ ": " ++ e.message (reply.body.getD []))),
            { c with notes := c.notes.erase .sawSkew })
        | (.error failure, c) =>
          (.error (onFailure resync drops target failure c).1,
            (onFailure resync drops target failure c).2) := by
  unfold send
  rw [Job.run_bind, Act.bind_apply, Act.run_lift]
  cases rpc target call c with
  | mk answer c =>
    cases answer with
    | error failure => rfl
    | ok reply =>
      simp only [Job.run_bind, Act.bind_apply]
      cases reply.json <;> rfl

end NodeApi

/-! ### Complaints about the time -/

/-- The call failed because the node found its time wrong. -/
def NodeApi.Complains (result : Except ApiFailure α) : Prop :=
  ∃ failure, result = .error failure ∧ isSkew failure = true

instance (result : Except ApiFailure α) : Decidable (NodeApi.Complains result) :=
  match result with
  | .error failure =>
    decidable_of_iff (NodeApi.isSkew failure = true)
      ⟨fun skew => ⟨failure, rfl, skew⟩, fun ⟨_, same, skew⟩ => Except.error.inj same ▸ skew⟩
  | .ok _ => .isFalse fun ⟨_, same, _⟩ => nomatch same

/-- What is done about a complaint about the time. -/
theorem NodeApi.onFailure_of_isSkew (resync : Act ω Bool) (drops : Bool) (node : Node)
    {failure : ApiFailure} (c : Client ω) (skew : isSkew failure = true) :
    onFailure resync drops node failure c
      = if c.notes.contains .sawSkew then (failure.withDecision .fail, c)
        else
          let synced := resync { c with notes := c.notes.set .sawSkew () }
          (failure.withDecision (if synced.1 then .retry else .fail), synced.2) := by
  unfold onFailure
  rw [if_pos skew, Act.bind_apply, Act.get_apply]
  dsimp only
  by_cases seen : c.notes.contains .sawSkew = true
  · rw [if_pos seen, if_pos seen]
    rfl
  · rw [if_neg seen, if_neg seen]
    rfl

/-- A complaint about the time that is not final made the client find the time. -/
theorem NodeApi.resync_of_isSkew {resync : Act ω Bool} {drops : Bool} {node : Node}
    {failure : ApiFailure} {c : Client ω} (skew : isSkew failure = true)
    (again : (onFailure resync drops node failure c).1.decision ≠ .fail) :
    ∃ asked, resync asked = (true, (onFailure resync drops node failure c).2) := by
  rw [onFailure_of_isSkew _ _ _ _ skew] at again ⊢
  by_cases seen : c.notes.contains .sawSkew = true
  · rw [if_pos seen] at again
    exact absurd (ApiFailure.decision_withDecision _ _) again
  · rw [if_neg seen] at again ⊢
    dsimp only at again ⊢
    cases synced : resync { c with notes := c.notes.set .sawSkew () } with
    | mk found c' =>
      rw [synced] at again
      cases found with
      | true => exact ⟨_, synced⟩
      | false => exact absurd (ApiFailure.decision_withDecision _ _) again

theorem NodeApi.isSkew_congr {f g : ApiFailure} (same : f.onion? = g.onion?) :
    isSkew f = isSkew g := by
  rw [isSkew, isSkew, same]

end OnionSwarm

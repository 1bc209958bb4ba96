/-
What becomes of a batch that is due.

Each member takes the form that it has inside a batch; a member that cannot is answered at once and
takes no further part.  The others are combined into one request.  If its answer has a part for
each of them, each gets its part, in order; otherwise all of them get the same failure.
-/
import OnionSwarm.Batch.Gather
import OnionSwarm.Batch.Rules

namespace OnionSwarm.Batch

variable {Request Item Answer : Type}

/-- Answers to members, by their ids. -/
abbrev Answers (Answer : Type) := List (Nat × Except ApiFailure Answer)

/-- A batch before it is sent. -/
structure Prepared (Request Item Answer : Type) where
  /-- The members that could not take part, with their answers. -/
  rejected : Answers Answer
  /-- The others, each with its form inside the batch. -/
  ready : List (Member Request × Item)

/-- Gives each member the form that it has inside a batch. -/
def prepare (rules : Rules Request Item Answer) :
    List (Member Request) → Prepared Request Item Answer
  | [] => ⟨[], []⟩
  | m :: rest =>
    let p := prepare rules rest
    match rules.item m.request with
    | .ok item => { p with ready := (m, item) :: p.ready }
    | .error e => { p with rejected := (m.id, .error e) :: p.rejected }

namespace Prepared

/-- The combined request; nothing if no member is ready. -/
def combined? (rules : Rules Request Item Answer) (p : Prepared Request Item Answer) :
    Option Request :=
  match p.ready with
  | [] => none
  | (first, _) :: _ => some (rules.combine first.request (p.ready.map Prod.snd))

/-- The parts of the answer, if there are as many as members. -/
def parts (rules : Rules Request Item Answer) (p : Prepared Request Item Answer)
    (answer : Except ApiFailure Answer) : Except ApiFailure (List (Except ApiFailure Answer)) :=
  match answer with
  | .error e => .error e
  | .ok answer =>
    match rules.split answer with
    | .error e => .error e
    | .ok results =>
      if results.length = p.ready.length then .ok results
      else
        .error (.batch ("batch response has " ++ toString results.length ++ " results for " ++
          toString p.ready.length ++ " requests"))

/-- The answers to the members that were ready. -/
def distribute (rules : Rules Request Item Answer) (p : Prepared Request Item Answer)
    (answer : Except ApiFailure Answer) : Answers Answer :=
  let ids := p.ready.map (·.1.id)
  match p.parts rules answer with
  | .ok results => ids.zip results
  | .error e => ids.map fun id => (id, .error e)

end Prepared

/-- Sends a batch over the layer below. -/
def execute {m : Type → Type} [Monad m] (rules : Rules Request Item Answer)
    (inner : Request → m (Except ApiFailure Answer)) (members : List (Member Request)) :
    m (Answers Answer) := do
  let p := prepare rules members
  match p.combined? rules with
  | none => return p.rejected
  | some request => return p.rejected ++ p.distribute rules (← inner request)

end OnionSwarm.Batch

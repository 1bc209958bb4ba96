/-
Operations of the client, worked out on a client.

An operation takes a client and gives an answer and the client afterwards.  Two of them one after
another do what the second does to what the first left; with these rules an operation is worked out
step by step, and nothing is to be known about how they are put together.
-/
import Mathlib.Tactic.Common
import OnionSwarm.Client.State

namespace OnionSwarm.Act

variable {ω α β : Type}

@[simp] theorem bind_apply (x : Act ω α) (f : α → Act ω β) (c : Client ω) :
    (x >>= f) c = f (x c).1 (x c).2 := rfl

@[simp] theorem pure_apply (a : α) (c : Client ω) : (pure a : Act ω α) c = (a, c) := rfl

@[simp] theorem get_apply (c : Client ω) : (get : Act ω (Client ω)) c = (c, c) := rfl

@[simp] theorem modify_apply (f : Client ω → Client ω) (c : Client ω) :
    (modify f : Act ω PUnit) c = (⟨⟩, f c) := rfl

@[simp] theorem ofOutside_apply (act : StateM ω α) (c : Client ω) :
    ofOutside act c = ((act c.outside).1, { c with outside := (act c.outside).2 }) := rfl

@[simp] theorem ofDice_apply (choose : Dice → α × Dice) (c : Client ω) :
    ofDice choose c = ((choose c.dice).1, { c with dice := (choose c.dice).2 }) := rfl

@[simp] theorem pool_apply (c : Client ω) :
    pool c = (c.store.viewPool, { c with store := c.store.notePool }) := rfl

@[simp] theorem setPool_apply (nodes : List Node) (c : Client ω) :
    setPool nodes c = ((), { c with store := c.store.setPool nodes }) := rfl

@[simp] theorem swarm_apply (account : String) (c : Client ω) :
    swarm account c = (c.store.viewSwarm account, { c with store := c.store.noteSwarm account }) :=
  rfl

/-- An action in a job is done without a wait. -/
@[simp] theorem run_lift (pass : Nat → Act ω Unit) (act : Act ω α) :
    Job.run pass (liftM act : Work ω α) = act := rfl

@[simp] theorem run_get (pass : Nat → Act ω Unit) :
    Job.run pass (get : Work ω (Client ω)) = get := rfl

end OnionSwarm.Act

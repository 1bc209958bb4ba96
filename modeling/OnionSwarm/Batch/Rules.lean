/-
How calls are gathered into one.

The rules say which calls may share a batch, what a call becomes inside one, how the combined call
is made, and how its answer is taken apart.  For calls to swarms the batch is a call of its own kind
that nodes know; it holds calls for one account, and if a node is forced, for that node.
-/
import OnionSwarm.Api.Failure
import OnionSwarm.Api.Storage
import OnionSwarm.Onion.Exchange

namespace OnionSwarm.Batch

/-- How requests of one kind are gathered, combined and taken apart. -/
structure Rules (Request Item Answer : Type) where
  /-- Requests of one key share a batch; a request without key goes alone. -/
  key? : Request → Option String
  /-- The form of a request inside a batch. -/
  item : Request → Except ApiFailure Item
  /-- The combined request, made from the first request and all items. -/
  combine : Request → List Item → Request
  /-- The answers to the items, in their order. -/
  split : Answer → Except ApiFailure (List (Except ApiFailure Answer))

/-- The methods that a node accepts inside a batch. -/
def methods : List String := ["retrieve", "store", "delete", "expire", "get_expiries"]

/-- The key of a swarm call: its account, and the node if one is forced. -/
def swarmKey? (c : SwarmCall) : Option String :=
  if c.call.method ∈ methods then
    match c.forced with
    | some n => some (c.account ++ "@" ++ n.url)
    | none => some c.account
  else none

/-- The result of one call inside a batch. -/
def subResult (entry : Json) : Except ApiFailure Json :=
  match Exchange.code? entry with
  | none => .error (.malformed "sub-response has no code")
  | some code =>
    let body := (entry.get? "body").getD .null
    if isSuccess code then .ok body else .error (.unhandled code (some body.render))

/-- The results of the calls in a batch. -/
def swarmSplit (answer : Json) : Except ApiFailure (List (Except ApiFailure Json)) :=
  match (answer.get? "results").bind Json.asArray? with
  | none => .error (.malformed "batch response has no results")
  | some results => .ok (results.map subResult)

/-- The rules for calls to swarms. -/
def swarmRules : Rules SwarmCall NodeCall Json where
  key? := swarmKey?
  item c := .ok c.call
  combine first items := ⟨first.account, Storage.batch items, first.forced⟩
  split := swarmSplit

end OnionSwarm.Batch

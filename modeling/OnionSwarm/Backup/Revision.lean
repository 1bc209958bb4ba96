/-
Keeping a revision of a local object in the account's own swarm.

One call stores the revision and then deletes those that it takes the place of; the node answers
with a result for each of the two.  The revision counts as stored only if all of them are good and
the first one names the hash under which it is kept.
-/
import OnionSwarm.Api.Storage
import OnionSwarm.Batch.Rules
import OnionSwarm.Directory.Failure

namespace OnionSwarm.Backup

/-- A revision of an object. -/
structure Revision where
  data : Bytes
  number : Int
  /-- The hashes of the revisions that this one takes the place of. -/
  obsolete : List String
  deriving DecidableEq, Repr

/-- Why an object could not be stored, or none of them. -/
inductive BackupFailure where
  | noTarget (cause : DirectoryFailure)
  | notSent (cause : ApiFailure)
  | noRevision (object reason : String)
  | rejected (object reason : String)

namespace BackupFailure

/-- The failure in words. -/
def message : BackupFailure → String
  | .noTarget cause => "No swarm node for own account: " ++ cause.message
  | .notSent cause => "Push request failed: " ++ cause.message
  | .noRevision object reason => "Config " ++ object ++ " could not produce a push: " ++ reason
  | .rejected object reason => "Push of " ++ object ++ " rejected: " ++ reason

end BackupFailure

/-- The call that stores a revision at a network time, in milliseconds. -/
def storing (who : Identity) (nspace : Int) (r : Revision) (time : Nat) : NodeCall :=
  let keep := Storage.store who ⟨nspace, r.data, Storage.defaultLifetime⟩ time
  Storage.sequence
    (if r.obsolete.isEmpty then [keep] else [keep, Storage.delete who r.obsolete])

/-- How many results the answer to that call must have. -/
def resultCount (r : Revision) : Nat := if r.obsolete.isEmpty then 1 else 2

/-- The bodies of results that are all good. -/
def bodies : List Json → Except ApiFailure (List Json)
  | [] => .ok []
  | entry :: rest =>
    match Batch.subResult entry with
    | .error e => .error e
    | .ok body =>
      match bodies rest with
      | .error e => .error e
      | .ok more => .ok (body :: more)

/-- The hash that the first of some bodies names. -/
def namedHash? (found : List Json) : Option String :=
  match (found.head?.bind (Json.get? "hash")).bind Json.asText? with
  | some hash => if hash.isEmpty then none else some hash
  | none => none

/-- The hash under which a revision of an object is kept, from the answer to the call. -/
def storedHash (object : String) (r : Revision) (answer : Json) : Except BackupFailure String :=
  match (answer.get? "results").bind Json.asArray? with
  | none => .error (.rejected object "response has no results")
  | some results =>
    if results.length ≠ resultCount r then
      .error (.rejected object ("expected " ++ toString (resultCount r) ++ " results, got " ++
        toString results.length))
    else
      match bodies results with
      | .error e => .error (.rejected object e.message)
      | .ok found =>
        match namedHash? found with
        | some hash => .ok hash
        | none => .error (.rejected object "store result has no hash")

end OnionSwarm.Backup

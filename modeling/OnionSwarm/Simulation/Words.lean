/-
Batches of words, to try out batching with.

A request `key:word` may share a batch with others of the same key; the combined request is the
first one followed by all words, and the answer has a part for each of them.
-/
import OnionSwarm.Batch.Rules
import OnionSwarm.Text.Upper

namespace OnionSwarm.Simulation.Words

/-- The text before and after the first of some mark; nothing if there is none. -/
def cut? (mark : Char) (s : String) : Option (String × String) :=
  let before := s.toList.takeWhile (· != mark)
  match s.toList.drop before.length with
  | [] => none
  | _ :: rest => some (String.ofList before, String.ofList rest)

/-- Does a text occur in another one? -/
def occurs (part whole : String) : Bool := (whole.splitOn part).length != 1

/-- The answer to a word. -/
def part (word : String) : Except ApiFailure String :=
  if word = "NEG" then .error (.malformed "negative") else .ok word

/-- Batches of words. -/
def rules : Batch.Rules String String String where
  key? s := (cut? ':' s).map Prod.fst
  item s :=
    let word := ((cut? ':' s).map Prod.snd).getD s
    if word = "bad" then .error (.malformed "bad member") else .ok word
  combine first words := first ++ "=" ++ ",".intercalate words
  split answer :=
    if occurs "NOSPLIT" answer then .error (.malformed "cannot split")
    else .ok (((((cut? '=' answer).map Prod.snd).getD answer).splitOn ",").map part)

/-- How long a slow request takes. -/
def slowness : Nat := 30

/-- The layer below: it answers in capitals, in its own time, or not at all. -/
def inner (unreachable : Node) (request : String) : Except ApiFailure String × Nat :=
  (if occurs "boom" request then .error (.onion (.guardUnreachable unreachable "refused"))
    else if occurs "short" request then .ok "ONLY"
    else .ok (Text.upper request),
   if occurs "slow" request then slowness else 0)

end OnionSwarm.Simulation.Words

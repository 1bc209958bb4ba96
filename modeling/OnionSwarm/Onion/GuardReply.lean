/-
What a guard's error reply means.

Such a reply is plain text.  A text that begins with one of a few markers names a node that the
request could not reach: the destination, or some hop.  With status 503 a guard may also call
itself not ready.  A status that never speaks against the path, or a demand for blinded ids,
comes from the destination; everything else is the guard's own refusal.
-/
import OnionSwarm.Onion.Destination
import OnionSwarm.Onion.Failure
import OnionSwarm.Text.Blank

namespace OnionSwarm.GuardReply

/-- What follows `marker` if the text begins with it. -/
def after? (marker text : String) : Option String :=
  if marker.toList.isPrefixOf text.toList then
    some (String.ofList (text.toList.drop marker.length))
  else none

/-- Does the text begin with `marker`? -/
def begins (marker text : String) : Bool := marker.toList.isPrefixOf text.toList

/-- Does `marker` occur in the list? -/
def occurs (marker : List Char) : List Char → Bool
  | [] => marker.isEmpty
  | c :: rest => marker.isPrefixOf (c :: rest) || occurs marker rest

/-- Behind these markers stands the key of a node that a hop does not know or cannot reach. -/
def unreachableMarkers : List String :=
  ["Next node not found: ", "Next node is currently unreachable: "]

/-- Behind this marker stands the key of a node that is not ready, if the status is 503. -/
def notReadyMarker : String := "Snode not ready: "

/-- With status 503 the guard says that it is not ready itself. -/
def guardNotReadyMarkers : List String :=
  ["Service node is not ready:", "Server busy, try again later"]

/-- The destination refuses an account that is not blinded. -/
def blindingRequired : String :=
  "Invalid authentication: this server requires the use of blinded ids"

/-- Statuses that never speak against the path. -/
def harmlessStatuses : List Nat := [403, 404, 406, 425]

/-- The status of a node or guard that is not ready. -/
def notReadyStatus : Nat := 503

/-- The key of the node that the reply blames. -/
def blamedKey? (guardNode : Node) (code : Nat) (text : String) : Option String :=
  match unreachableMarkers.findSome? (after? · text) with
  | some key => some (Text.trim key)
  | none =>
    if code = notReadyStatus then
      match after? notReadyMarker text with
      | some key => some (Text.trim key)
      | none =>
        if guardNotReadyMarkers.any (begins · text) then some guardNode.key else none
    else none

/-- The failure that an error reply of the guard stands for. -/
def classify (guardNode : Node) (destination : Destination) (code : Nat) (body : Bytes) :
    OnionFailure :=
  let text := Text.Utf8.lossy body
  let status : Status := ⟨code, some text, none⟩
  match blamedKey? guardNode code text with
  | some key =>
    if destination.node?.any (·.key == key) then .destinationUnreachable status
    else .hopFailed guardNode key status
  | none =>
    if code ∈ harmlessStatuses || occurs blindingRequired.toList text.toList then
      .destinationRefused status
    else .guardRefused guardNode status

end OnionSwarm.GuardReply

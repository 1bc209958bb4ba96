/-
Requests to servers behind the last hop.
-/
import OnionSwarm.Client.Paths

namespace OnionSwarm

/-- A request as a server reads it. -/
structure ServerCall where
  destination : Destination
  method : String
  endpoint : String
  /-- Names and values, each name once. -/
  headers : List (String × String)
  body : Option Bytes
  deriving Repr

/-- The answer of a server. -/
structure ServerReply where
  status : Nat
  headers : Json
  body : Option Bytes
  deriving Repr

namespace ServerCall

/-- Sets a header. -/
def withHeader (c : ServerCall) (name value : String) : ServerCall :=
  { c with headers := c.headers.filter (·.1 != name) ++ [(name, value)] }

/-- Sets a body of JSON, and the header that says so. -/
def withJson (c : ServerCall) (v : Json) : ServerCall :=
  { c with body := some v.toBytes }.withHeader "Content-Type" "application/json"

/-- The information section of the request. -/
def info (c : ServerCall) : Json :=
  .ofMembers [("method", .text c.method), ("endpoint", .text c.endpoint),
    ("headers", .ofMembers (c.headers.map fun h => (h.1, .text h.2)))]

/-- The request as a version 4 message. -/
def encode (c : ServerCall) : Bytes := Framing.encodeMessage c.info c.body

end ServerCall

namespace ServerReply

/-- The answer of a reply. -/
def ofOnion (r : OnionReply) : ServerReply :=
  ⟨r.code, (r.info.get? "headers").getD .null, r.body⟩

/-- The body as JSON; null if there is none. -/
def json (r : ServerReply) : Except ApiFailure Json :=
  match r.body with
  | none => .ok .null
  | some body =>
    match Json.parse body with
    | .ok v => .ok v
    | .error e => .error (.malformed (e.message body))

end ServerReply

/-- Sends a request to a server along a new path. -/
def ServerCall.send {ω : Type} (source : SeedSource ω) (plan : PathPlan)
    (transport : Transport ω) (call : ServerCall) : Act ω (Except ApiFailure ServerReply) := do
  match ← Paths.get source plan none with
  | .error e => return .error (.path e)
  | .ok path =>
    match ← transport path call.destination call.encode with
    | .ok reply => return .ok (.ofOnion reply)
    | .error failure => return .error (← Paths.penalise path failure)

end OnionSwarm

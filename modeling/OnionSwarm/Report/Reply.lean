/-
Reports on replies, as JSON.
-/
import OnionSwarm.Report.Failure

namespace OnionSwarm.Report

/-- The report on a result. -/
def result {ε α : Type} (bad : ε → Json) (good : α → Json) : Except ε α → Json
  | .ok a => good a
  | .error e => bad e

/-- A reply along a path. -/
def reply (r : OnionReply) : Json :=
  .ofMembers [("code", .nat r.code), ("info", written r.info), ("body", bytes? r.body),
    ("json", result (fun _ => .ofMembers [("error", .text "Json")]) written r.json)]

/-- The answer of a server. -/
def serverReply (r : ServerReply) : Json :=
  .ofMembers [("status", .nat r.status), ("headers", written r.headers), ("body", bytes? r.body),
    ("json", result api written r.json)]

end OnionSwarm.Report

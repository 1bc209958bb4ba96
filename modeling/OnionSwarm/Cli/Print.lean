/-
What the command prints.
-/
import OnionSwarm.Cli.Settings
import OnionSwarm.Onion.Path

namespace OnionSwarm.Cli.Print

/-- A text filled up with blanks on the right. -/
def left (width : Nat) (s : String) : String := s.pushn ' ' (width - s.length)

/-- A text filled up with blanks on the left. -/
def right (width : Nat) (s : String) : String := "".pushn ' ' (width - s.length) ++ s

/-- A line. -/
def line (s : String) : String := s ++ "\n"

/-- The longest beginning of some characters that has exactly `size` bytes; nothing if there is
none, because a character stands across that place or the text ends before it. -/
def prefixOf? : (size : Nat) → List Char → Option (List Char)
  | 0, _ => some []
  | _, [] => none
  | size + 1, c :: rest =>
    if c.utf8Size ≤ size + 1 then (prefixOf? (size + 1 - c.utf8Size) rest).map (c :: ·) else none
  termination_by _ cs => cs.length

/-- How many bytes of a key are shown. -/
def keyBytes : Nat := 16

/-- The beginning of a key; a key that cannot be cut there is shown whole. -/
def shortKey (key : String) : String :=
  ((prefixOf? keyBytes key.toList).map String.ofList).getD key

/-- A numbered node. -/
def node (index : Nat) (n : Node) : String :=
  line ("  " ++ right 3 (toString (index + 1)) ++ ". " ++ left 28 n.url ++ " v" ++
    left 8 n.version.render ++ " " ++ shortKey n.key)

/-- Numbered nodes. -/
def nodes (ns : List Node) : String := String.join (ns.zipIdx.map fun (n, i) => node i n)

/-- The pool. -/
def pool (ns : List Node) : String :=
  line "Snode Pool" ++
    (if ns.isEmpty then line "  (empty, run `swarmnet pool refresh`)" else nodes ns)

/-- The swarm of an account. -/
def swarm (account : String) (ns : List Node) : String :=
  line ("Swarm for " ++ account) ++ nodes ns

/-- A hop of a path. -/
def hop (index : Nat) (n : Node) : String :=
  line ("  → " ++ left 6 (if index = 0 then "guard" else "hop") ++ " " ++ n.url)

/-- A path. -/
def path (p : Path) : String :=
  line "Onion Path" ++ String.join (p.hops.zipIdx.map fun (n, i) => hop i n)

/-- All settings. -/
def settings (s : Settings) : String :=
  line "Configuration" ++ line "" ++
    String.join (s.list.map fun (key, value) => line ("  " ++ left 20 key ++ " " ++ value))

/-- A text of several lines, each further one moved to the right. -/
def indent (s : String) : String := "\n    ".intercalate (s.splitOn "\n")

/-- Several reasons, each with its number. -/
def numbered (reasons : List String) : String :=
  String.join (reasons.zipIdx.map fun (reason, i) =>
    "\n" ++ right 5 (toString i) ++ ": " ++ "\n       ".intercalate (reason.splitOn "\n"))

/-- What failed and the reasons. -/
def failure : List String → String
  | [] => "Error: "
  | [what] => "Error: " ++ what
  | [what, reason] => "Error: " ++ what ++ "\n\nCaused by:\n    " ++ indent reason
  | what :: reasons => "Error: " ++ what ++ "\n\nCaused by:" ++ numbered reasons

end OnionSwarm.Cli.Print

/-
The help of the command.

Each command has a page that says what it is for, how it is written, what stands below it, and which
values and flags it takes.  The pages are also what `help` and the words after it are looked up in.
-/

namespace OnionSwarm.Cli.Help

/-- A value that a command takes. -/
structure Operand where
  /-- How the value stands in the usage. -/
  form : String
  about : String
  deriving DecidableEq, Repr

/-- A command. -/
structure Page where
  /-- The words that lead to it; none lead to the whole. -/
  words : List String
  about : String
  operands : List Operand
  deriving DecidableEq, Repr

/-- What help itself is for. -/
def helpAbout : String := "Print this message or the help of the given subcommand(s)"

/-- The page of help itself, below some words. -/
def helpPage (words : List String) : Page :=
  ⟨words ++ ["help"], helpAbout, [⟨"[COMMAND]...", "Print help for the subcommand(s)"⟩]⟩

/-- All pages. -/
def pages : List Page :=
  [⟨[], "Onion-routed client for snode swarms", []⟩,
    ⟨["pool"], "Inspect or refresh the snode pool", []⟩,
    ⟨["pool", "refresh"], "", []⟩,
    ⟨["pool", "list"], "", []⟩,
    helpPage ["pool"],
    ⟨["swarm"], "Show the swarm of an account", [⟨"<ACCOUNT>", ""⟩]⟩,
    ⟨["path"], "Build an onion path and print its hops", []⟩,
    ⟨["call"], "Send a JSON-RPC call to an account's swarm",
      [⟨"<ACCOUNT>", ""⟩, ⟨"<METHOD>", ""⟩, ⟨"[PARAMS]", "JSON object with the call parameters"⟩]⟩,
    ⟨["config"], "Configure settings", []⟩,
    ⟨["config", "show"], "", []⟩,
    ⟨["config", "set"], "", [⟨"<KEY>", ""⟩, ⟨"<VALUE>", ""⟩]⟩,
    ⟨["config", "reset"], "", []⟩,
    helpPage ["config"],
    ⟨["clock"], "Sync with network time and show the offset", []⟩,
    helpPage []]

/-- The page that some words lead to. -/
def page? (words : List String) : Option Page := pages.find? (·.words == words)

/-! ### The text of a page -/

/-- The last word that leads to a page. -/
def Page.name (p : Page) : String := p.words.getLast?.getD ""

/-- Is it a page of help itself? -/
def Page.isHelp (p : Page) : Bool := p.name = "help"

/-- The pages right below one. -/
def Page.below (p : Page) : List Page :=
  pages.filter fun q => q.words.dropLast == p.words && !q.words.isEmpty

/-- The flags of a page; that of the version stands on the first page only. -/
def Page.flags (p : Page) : List (String × String) :=
  if p.isHelp then []
  else
    [("-v, --verbose", "Debug logging for swarmnet crates"),
      ("    --json-logs", "Emit logs as JSON lines"), ("-h, --help", "Print help")] ++
      if p.words.isEmpty then [("-V, --version", "Print version")] else []

/-- Two columns under a title, the second one in line; nothing without rows. -/
def table (title : String) (rows : List (String × String)) : String :=
  let width := rows.foldl (fun w r => max w r.1.length) 0
  let row (r : String × String) := "  " ++ r.1.pushn ' ' (width - r.1.length) ++ "  " ++ r.2 ++ "\n"
  if rows.isEmpty then "" else "\n" ++ title ++ ":\n" ++ String.join (rows.map row)

/-- How a command is written. -/
def Page.usage (p : Page) : String :=
  " ".intercalate
    (["Usage: swarmnet"] ++ p.words ++ (if p.flags.isEmpty then [] else ["[OPTIONS]"]) ++
      p.operands.map Operand.form ++ if p.below.isEmpty then [] else ["<COMMAND>"])

/-- The text of a page. -/
def Page.text (p : Page) : String :=
  (if p.about.isEmpty then "" else p.about ++ "\n\n") ++ p.usage ++ "\n" ++
    table "Commands" (p.below.map fun q => (q.name, q.about)) ++
    table "Arguments" (p.operands.map fun o => (o.form, o.about)) ++
    table "Options" p.flags

end OnionSwarm.Cli.Help

/-
The arguments of the command.

A command is one word or two, followed by its values.  Two flags may stand anywhere, once at each
level: before the first word, after it, and after the second.  What begins with a hyphen is a flag,
unless it is a hyphen alone or comes after `--`.
-/
import OnionSwarm.Cli.Help

namespace OnionSwarm.Cli

/-- What is to be done. -/
inductive Command where
  | poolRefresh
  | poolList
  | swarm (account : String)
  | path
  | call (account method : String) (params : Option String)
  | configShow
  | configSet (key value : String)
  | configReset
  | clock
  deriving DecidableEq, Repr

/-- How much is said about the work. -/
structure Flags where
  verbose : Bool
  jsonLogs : Bool
  deriving DecidableEq, Repr

/-- What the arguments ask for. -/
inductive Request where
  | run (flags : Flags) (command : Command)
  | version
  | help (page : Help.Page)
  /-- The arguments are wrong. -/
  | usage
  deriving DecidableEq, Repr

namespace Arguments

/-- An argument by its form. -/
inductive Form where
  /-- Flags of one letter each. -/
  | short (letters : List Char)
  | long (name : String)
  /-- What follows are values. -/
  | escape
  | value (text : String)

/-- The form of an argument. -/
def form (arg : String) : Form :=
  match arg.toList with
  | ['-', '-'] => .escape
  | '-' :: '-' :: name => .long (String.ofList name)
  | '-' :: letter :: letters => .short (letter :: letters)
  | _ => .value arg

/-- What a flag leads to at some level: the flags seen there, or something else than a command. -/
inductive Seen where
  | flags (flags : Flags)
  | instead (request : Request)

/-- No flags. -/
def none : Flags := ⟨false, false⟩

/-- One more flag; none may stand twice. -/
def verbose (f : Flags) : Seen :=
  if f.verbose then .instead .usage else .flags { f with verbose := true }

/-- One more flag; none may stand twice. -/
def jsonLogs (f : Flags) : Seen :=
  if f.jsonLogs then .instead .usage else .flags { f with jsonLogs := true }

/-- The page that some words lead to. -/
def help (words : List String) : Request :=
  match Help.page? words with
  | some page => .help page
  | .none => .usage

/-- The version, which is known at the first level only. -/
def version (level : List String) : Request := if level.isEmpty then .version else .usage

/-- Flags of one letter each, at the level that some words have led to. -/
def letters (level : List String) (f : Flags) : List Char → Seen
  | [] => .flags f
  | 'v' :: rest =>
    match verbose f with
    | .flags f => letters level f rest
    | other => other
  | 'h' :: _ => .instead (help level)
  | 'V' :: _ => .instead (version level)
  | _ => .instead .usage

/-- A flag with a name. -/
def named (level : List String) (f : Flags) (name : String) : Seen :=
  match name with
  | "verbose" => verbose f
  | "json-logs" => jsonLogs f
  | "help" => .instead (help level)
  | "version" => .instead (version level)
  | _ => .instead .usage

/-- A word and what comes before and after it at some level. -/
inductive Word where
  | word (flags : Flags) (text : String) (rest : List String)
  | instead (request : Request)

/-- The first word of some arguments, after any flags. -/
def nextWord (level : List String) (f : Flags) : List String → Word
  | [] => .instead .usage
  | arg :: rest =>
    match form arg with
    | .value text => .word f text rest
    | .escape => .instead .usage
    | .short ls =>
      match letters level f ls with
      | .flags f => nextWord level f rest
      | .instead r => .instead r
    | .long name =>
      match named level f name with
      | .flags f => nextWord level f rest
      | .instead r => .instead r

/-- Values and flags at the last level. -/
inductive Values where
  | values (flags : Flags) (texts : List String)
  | instead (request : Request)

/-- All values of some arguments, at most `most`, and any flags among them. -/
def values (level : List String) (most : Nat) (f : Flags) (texts : List String) :
    List String → Values
  | [] => .values f texts
  | arg :: rest =>
    match form arg with
    | .value text =>
      if texts.length < most then values level most f (texts ++ [text]) rest else .instead .usage
    | .escape =>
      if texts.length + rest.length ≤ most then .values f (texts ++ rest) else .instead .usage
    | .short ls =>
      match letters level f ls with
      | .flags f => values level most f texts rest
      | .instead r => .instead r
    | .long name =>
      match named level f name with
      | .flags f => values level most f texts rest
      | .instead r => .instead r

/-- Either of two sets of flags. -/
def both (a b : Flags) : Flags := ⟨a.verbose || b.verbose, a.jsonLogs || b.jsonLogs⟩

/-- A command that takes at most `most` values, made from them by `make`. -/
def finish (level : List String) (outer : Flags) (most : Nat) (args : List String)
    (make : List String → Option Command) : Request :=
  match values level most none [] args with
  | .instead r => r
  | .values f texts =>
    match make texts with
    | some command => .run (both outer f) command
    | .none => .usage

/-- A command without values. -/
def plain (level : List String) (outer : Flags) (args : List String) (command : Command) :
    Request :=
  finish level outer 0 args fun _ => some command

/-- The commands on the pool. -/
def pool (outer : Flags) (args : List String) : Request :=
  match nextWord ["pool"] none args with
  | .instead r => r
  | .word f text rest =>
    let level := ["pool", text]
    let outer := both outer f
    match text with
    | "refresh" => plain level outer rest .poolRefresh
    | "list" => plain level outer rest .poolList
    | "help" => help ("pool" :: rest)
    | _ => .usage

/-- The commands on the settings. -/
def config (outer : Flags) (args : List String) : Request :=
  match nextWord ["config"] none args with
  | .instead r => r
  | .word f text rest =>
    let level := ["config", text]
    let outer := both outer f
    match text with
    | "show" => plain level outer rest .configShow
    | "set" => finish level outer 2 rest fun
      | [key, value] => some (.configSet key value)
      | _ => .none
    | "reset" => plain level outer rest .configReset
    | "help" => help ("config" :: rest)
    | _ => .usage

/-- What some arguments ask for. -/
def read (args : List String) : Request :=
  match nextWord [] none args with
  | .instead r => r
  | .word f text rest =>
    match text with
    | "pool" => pool f rest
    | "swarm" => finish [text] f 1 rest fun
      | [account] => some (.swarm account)
      | _ => .none
    | "path" => plain [text] f rest .path
    | "call" => finish [text] f 3 rest fun
      | [account, method] => some (.call account method .none)
      | [account, method, params] => some (.call account method (some params))
      | _ => .none
    | "config" => config f rest
    | "clock" => plain [text] f rest .clock
    | "help" => help rest
    | _ => .usage

end Arguments
end OnionSwarm.Cli

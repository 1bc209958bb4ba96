/-
Writing JSON.

The compact form has no blank characters.  The wide form puts every item and every member on a
line of its own, two spaces deeper than what holds it, and leaves empty arrays and objects closed.
Only quotes, backslashes and control characters are escaped.
-/
import OnionSwarm.Json.Value
import OnionSwarm.Text.Bytes
import OnionSwarm.Text.Shortest

namespace OnionSwarm.Json

/-- The escaped form of a character in a text. -/
def escape (c : Char) : List Char :=
  if c = '"' then ['\\', '"']
  else if c = '\\' then ['\\', '\\']
  else if c = '\n' then ['\\', 'n']
  else if c = '\r' then ['\\', 'r']
  else if c = '\t' then ['\\', 't']
  else if c.toNat = 8 then ['\\', 'b']
  else if c.toNat = 12 then ['\\', 'f']
  else if c.toNat < 32 then
    ['\\', 'u', '0', '0', Nat.digitChar (c.toNat / 16), Nat.digitChar (c.toNat % 16)]
  else [c]

/-- A text in quotes. -/
def quote (s : String) : String :=
  String.ofList ('"' :: (s.toList.flatMap escape ++ ['"']))

/-- Doubles are written out up to sixteen digits before the point and up to four zeros after it. -/
def doubleLayout : Text.Shortest.Layout := ⟨16, 4⟩

/-- The text of a number. -/
def renderNumber : Number → String
  | .int i => toString i
  | .double bits =>
    match Text.Shortest.magnitude? bits with
    | none => "null"
    | some d =>
      let sign := if Text.Shortest.isNegative bits then "-" else ""
      if d.m = 0 then sign ++ "0.0"
      else
        let (n, k) := Text.Shortest.digits d
        sign ++ doubleLayout.render n k

mutual
/-- The compact form. -/
def render : Json → String
  | .null => "null"
  | .bool b => if b then "true" else "false"
  | .number n => renderNumber n
  | .text s => quote s
  | .array items => "[" ++ ",".intercalate (renderItems items) ++ "]"
  | .object members => "\x7b" ++ ",".intercalate (renderMembers members) ++ "\x7d"

/-- The compact forms of items. -/
def renderItems : List Json → List String
  | [] => []
  | v :: rest => v.render :: renderItems rest

/-- The compact forms of members. -/
def renderMembers : List (String × Json) → List String
  | [] => []
  | (k, v) :: rest => (quote k ++ ":" ++ v.render) :: renderMembers rest
end

/-- A new line at the given depth. -/
def newline (depth : Nat) : String :=
  String.ofList ('\n' :: List.replicate (2 * depth) ' ')

mutual
/-- The wide form, inside `depth` arrays and objects. -/
def renderWideAt (depth : Nat) : Json → String
  | .array [] => "[]"
  | .array items => "[" ++ ",".intercalate (wideItems (depth + 1) items) ++ newline depth ++ "]"
  | .object [] => "\x7b\x7d"
  | .object members =>
    "\x7b" ++ ",".intercalate (wideMembers (depth + 1) members) ++ newline depth ++ "\x7d"
  | .null => "null"
  | .bool b => if b then "true" else "false"
  | .number n => renderNumber n
  | .text s => quote s

/-- The wide forms of items, each on a line of its own. -/
def wideItems (depth : Nat) : List Json → List String
  | [] => []
  | v :: rest => (newline depth ++ renderWideAt depth v) :: wideItems depth rest

/-- The wide forms of members, each on a line of its own. -/
def wideMembers (depth : Nat) : List (String × Json) → List String
  | [] => []
  | (k, v) :: rest =>
    (newline depth ++ quote k ++ ": " ++ renderWideAt depth v) :: wideMembers depth rest
end

/-- The wide form. -/
def renderWide (v : Json) : String := renderWideAt 0 v

/-- The compact form as bytes. -/
def toBytes (v : Json) : Bytes := Bytes.ofString v.render

end OnionSwarm.Json

/-
JSON text, as it is written.

Reading has two stages.  The first finds the structure of a text and keeps it as a tree: members in
their order, repeats included, and strings and numbers that have no value as `none`.  The second,
`Written.value?`, makes a value of the tree and fails at such a part, or where arrays and objects
lie too deep.  A record that is read field by field uses the tree itself: it sees repeated fields,
and what stands under a field that it does not know is never made a value.

A text that is no JSON has a tree too.  It ends where the fault is, and each array and object around
that place says so after its last part.  So a reader that takes the parts in their order meets
whatever comes first, the fault of the text or a part that it does not want.

Each function takes fuel.  Every step takes a byte or goes from a list to its first part, so twice
the length of the text is enough.
-/
import OnionSwarm.Json.Numeral
import OnionSwarm.Text.Utf8

namespace OnionSwarm.Json

/-- Why a text, or a part of it, is not what was wanted. -/
inductive Fault where
  | endOfText
  | expectedValue
  | expectedText
  | expectedColon
  | expectedSeparator
  | badNumber
  | badString
  | trailing
  | tooDeep
  | outOfRange
  /-- A string that is not well formed text. -/
  | badText
  /-- A value of another type than the field's. -/
  | wrongType (found wanted : String)
  /-- A value of the right type that the field cannot take. -/
  | wrongValue (found wanted : String)
  | wrongLength (found : Nat) (wanted : String)
  | missingField (name : String)
  | repeatedField (name : String)
  | unknownKind (name wanted : String)
  deriving DecidableEq, Repr

/-- A fault, and how many bytes of the text were still unread; none where the place is not kept. -/
structure ReadError where
  fault : Fault
  unread : Nat
  deriving DecidableEq, Repr

/-- Fails, without a place. -/
def fail {α : Type} (fault : Fault) : Except ReadError α := .error ⟨fault, 0⟩

/-- A result that counts only if nothing stopped the reading after it. -/
def unlessStopped {α : Type} (stop : Option ReadError) (result : Except ReadError α) :
    Except ReadError α :=
  match result, stop with
  | .ok _, some e => .error e
  | result, _ => result

/-- JSON text as it is written. -/
inductive Written where
  | null
  | bool (b : Bool)
  /-- A number; none if it is beyond the doubles. -/
  | number (n : Option Number)
  /-- A string; none if it is not well formed text. -/
  | text (s : Option String)
  /-- An array, and the fault that lies in it. -/
  | array (items : List Written) (stop : Option ReadError)
  /-- An object, and the fault that lies in it. -/
  | object (members : List (Option String × Written)) (stop : Option ReadError)
  /-- No value: here the text stops being JSON. -/
  | broken (e : ReadError)
  deriving Repr, Inhabited

namespace Written

/-- The bytes from the first that is not blank. -/
def skipBlank : Bytes → Bytes
  | [] => []
  | b :: rest => if b = 32 ∨ b = 9 ∨ b = 10 ∨ b = 13 then skipBlank rest else b :: rest

/-- A part of a string. -/
inductive Piece where
  | byte (b : UInt8)
  /-- A sixteen-bit unit that was written with four digits. -/
  | unit (n : Nat)
  deriving DecidableEq, Repr

/-- The value of a hexadecimal digit. -/
def hexDigit? (b : UInt8) : Option Nat :=
  if 48 ≤ b ∧ b ≤ 57 then some (b.toNat - 48)
  else if 97 ≤ b ∧ b ≤ 102 then some (b.toNat - 87)
  else if 65 ≤ b ∧ b ≤ 70 then some (b.toNat - 55)
  else none

/-- The byte that an escape of one letter stands for. -/
def escaped? (b : UInt8) : Option UInt8 :=
  if b = 34 ∨ b = 92 ∨ b = 47 then some b
  else if b = 98 then some 8
  else if b = 102 then some 12
  else if b = 110 then some 10
  else if b = 114 then some 13
  else if b = 116 then some 9
  else none

/-- The parts of a string up to its closing quote, and what follows that. -/
def pieces : Bytes → Except ReadError (List Piece × Bytes)
  | [] => .error ⟨.endOfText, 0⟩
  | 34 :: rest => .ok ([], rest)
  | 92 :: 117 :: a :: b :: c :: d :: rest =>
    match hexDigit? a, hexDigit? b, hexDigit? c, hexDigit? d with
    | some a, some b, some c, some d =>
      match pieces rest with
      | .ok (ps, after) => .ok (.unit (((a * 16 + b) * 16 + c) * 16 + d) :: ps, after)
      | .error e => .error e
    | _, _, _, _ => .error ⟨.badString, rest.length⟩
  | 92 :: b :: rest =>
    match escaped? b with
    | none => .error ⟨.badString, rest.length⟩
    | some b =>
      match pieces rest with
      | .ok (ps, after) => .ok (.byte b :: ps, after)
      | .error e => .error e
  | b :: rest =>
    if b < 32 then .error ⟨.badString, rest.length⟩
    else
      match pieces rest with
      | .ok (ps, after) => .ok (.byte b :: ps, after)
      | .error e => .error e

/-- The UTF-8 form of a code point. -/
def codePoint (n : Nat) : Bytes := String.utf8EncodeChar (Char.ofNat n)

/-- Puts the parts of a string together; none if half of a surrogate pair stands alone. -/
def join? : List Piece → Option Bytes
  | [] => some []
  | .byte b :: rest => (join? rest).map (b :: ·)
  | .unit high :: .unit low :: rest =>
    if 0xD800 ≤ high ∧ high ≤ 0xDBFF then
      if 0xDC00 ≤ low ∧ low ≤ 0xDFFF then
        (join? rest).map (codePoint (0x10000 + (high - 0xD800) * 1024 + (low - 0xDC00)) ++ ·)
      else none
    else if 0xDC00 ≤ high ∧ high ≤ 0xDFFF then none
    else (join? (.unit low :: rest)).map (codePoint high ++ ·)
  | .unit n :: rest =>
    if 0xD800 ≤ n ∧ n ≤ 0xDFFF then none else (join? rest).map (codePoint n ++ ·)

/-- The text that the parts of a string make. -/
def textOf? (ps : List Piece) : Option String :=
  match join? ps with
  | none => none
  | some bytes => Text.Utf8.decode? bytes

/-- Is the byte the first of a numeral? -/
def startsNumeral (b : UInt8) : Bool := b = 45 || (48 ≤ b && b ≤ 57)

/-- What was found, and what follows it, or the fault that stopped the reading. -/
abbrev Found (α : Type) := α × Except ReadError Bytes

/-- No value was found. -/
def stopped (fault : Fault) (unread : Nat) : Found Written :=
  (.broken ⟨fault, unread⟩, .error ⟨fault, unread⟩)

/-- The fault that stopped the reading. -/
def stopOf : Except ReadError Bytes → Option ReadError
  | .ok _ => none
  | .error e => some e

/-- Reading stops where one of some marks is wanted, because the text ends or goes on otherwise. -/
def unmarked (fault : Fault) : Bytes → ReadError
  | [] => ⟨.endOfText, 0⟩
  | _ :: after => ⟨fault, after.length⟩

mutual
/-- Reads one value. -/
def value (fuel : Nat) (bytes : Bytes) : Found Written :=
  match fuel with
  | 0 => stopped .tooDeep bytes.length
  | fuel + 1 =>
    match skipBlank bytes with
    | [] => stopped .endOfText 0
    | 110 :: 117 :: 108 :: 108 :: rest => (.null, .ok rest)
    | 116 :: 114 :: 117 :: 101 :: rest => (.bool true, .ok rest)
    | 102 :: 97 :: 108 :: 115 :: 101 :: rest => (.bool false, .ok rest)
    | 34 :: rest =>
      match pieces rest with
      | .ok (ps, after) => (.text (textOf? ps), .ok after)
      | .error e => stopped e.fault e.unread
    | 91 :: rest =>
      match skipBlank rest with
      | 93 :: after => (.array [] none, .ok after)
      | _ =>
        let (vs, after) := items fuel rest
        (.array vs (stopOf after), after)
    | 123 :: rest =>
      match skipBlank rest with
      | 125 :: after => (.object [] none, .ok after)
      | _ =>
        let (ms, after) := members fuel rest
        (.object ms (stopOf after), after)
    | b :: rest =>
      if startsNumeral b then
        match Numeral.read (b :: rest) with
        | some (n, after) => (.number n, .ok after)
        | none => stopped .badNumber rest.length
      else stopped .expectedValue rest.length

/-- Reads the items of an array up to its bracket; there is at least one. -/
def items (fuel : Nat) (bytes : Bytes) : Found (List Written) :=
  match fuel with
  | 0 => ([], .error ⟨.tooDeep, bytes.length⟩)
  | fuel + 1 =>
    match value fuel bytes with
    | (v, .error e) => ([v], .error e)
    | (v, .ok rest) =>
      match skipBlank rest with
      | 93 :: after => ([v], .ok after)
      | 44 :: more =>
        let (vs, after) := items fuel more
        (v :: vs, after)
      | other => ([v], .error (unmarked .expectedSeparator other))

/-- Reads the members of an object up to its brace; there is at least one. -/
def members (fuel : Nat) (bytes : Bytes) : Found (List (Option String × Written)) :=
  match fuel with
  | 0 => ([], .error ⟨.tooDeep, bytes.length⟩)
  | fuel + 1 =>
    match skipBlank bytes with
    | 34 :: rest =>
      match pieces rest with
      | .error e => ([], .error e)
      | .ok (ps, rest) =>
        match skipBlank rest with
        | 58 :: rest =>
          match value fuel rest with
          | (v, .error e) => ([(textOf? ps, v)], .error e)
          | (v, .ok rest) =>
            match skipBlank rest with
            | 125 :: after => ([(textOf? ps, v)], .ok after)
            | 44 :: more =>
              let (ms, after) := members fuel more
              ((textOf? ps, v) :: ms, after)
            | other => ([(textOf? ps, v)], .error (unmarked .expectedSeparator other))
        | other =>
          let e := unmarked .expectedColon other
          ([(textOf? ps, .broken e)], .error e)
    | other => ([], .error (unmarked .expectedText other))
end

/-- Reads a whole text: one value with nothing but blanks around it, or the fault that lies in the
value or after it. -/
def read (bytes : Bytes) : Written × Option ReadError :=
  match value (2 * bytes.length + 2) bytes with
  | (v, .error e) => (v, some e)
  | (v, .ok rest) =>
    match skipBlank rest with
    | [] => (v, none)
    | _ :: after => (v, some ⟨.trailing, after.length⟩)

mutual
/-- Makes a value, of at most `levels` arrays and objects inside one another. -/
def value? (levels : Nat) : Written → Except ReadError Json
  | .null => .ok .null
  | .bool b => .ok (.bool b)
  | .number (some n) => .ok (.number n)
  | .number none => fail .outOfRange
  | .text (some s) => .ok (.text s)
  | .text none => fail .badText
  | .array items stop =>
    match levels with
    | 0 => fail .tooDeep
    | levels + 1 => Json.array <$> unlessStopped stop (items? levels items)
  | .object members stop =>
    match levels with
    | 0 => fail .tooDeep
    | levels + 1 => Json.ofMembers <$> unlessStopped stop (members? levels members)
  | .broken e => .error e

/-- Makes values of items. -/
def items? (levels : Nat) : List Written → Except ReadError (List Json)
  | [] => .ok []
  | v :: rest =>
    match value? levels v with
    | .error e => .error e
    | .ok v =>
      match items? levels rest with
      | .ok vs => .ok (v :: vs)
      | .error e => .error e

/-- Makes values of members. -/
def members? (levels : Nat) : List (Option String × Written) →
    Except ReadError (List (String × Json))
  | [] => .ok []
  | (none, _) :: _ => fail .badText
  | (some k, v) :: rest =>
    match value? levels v with
    | .error e => .error e
    | .ok v =>
      match members? levels rest with
      | .ok ms => .ok ((k, v) :: ms)
      | .error e => .error e
end

/-- Reads a whole text as something, taking its parts in their order. -/
def readAs {α : Type} (reader : Written → Except ReadError α) (text : Bytes) :
    Except ReadError α :=
  let (w, stop) := read text
  unlessStopped stop (reader w)

end Written

/-- How many arrays and objects may lie inside one another. -/
def deepest : Nat := 127

/-- Reads a JSON value. -/
def parse (bytes : Bytes) : Except ReadError Json := Written.readAs (Written.value? deepest) bytes

/-- The wording of a fault, up to the place. -/
def Fault.message : Fault → String
  | .endOfText => "unexpected end of text"
  | .expectedValue => "expected a value"
  | .expectedText => "a key must be a string"
  | .expectedColon => "expected a colon"
  | .expectedSeparator => "expected a comma or a closing bracket"
  | .badNumber => "invalid number"
  | .badString => "invalid string"
  | .trailing => "trailing characters"
  | .tooDeep => "nested too deeply"
  | .outOfRange => "number out of range"
  | .badText => "string is no text"
  | .wrongType found wanted => "invalid type: " ++ found ++ ", expected " ++ wanted
  | .wrongValue found wanted => "invalid value: " ++ found ++ ", expected " ++ wanted
  | .wrongLength found wanted => "invalid length " ++ toString found ++ ", expected " ++ wanted
  | .missingField name => "missing field `" ++ name ++ "`"
  | .repeatedField name => "duplicate field `" ++ name ++ "`"
  | .unknownKind name wanted => "unknown variant `" ++ name ++ "`, expected " ++ wanted

/-- The wording of an error, with the line and column where reading stopped. -/
def ReadError.message (text : Bytes) (e : ReadError) : String :=
  let seen := text.take (text.length - e.unread)
  let line := seen.count 10 + 1
  let column := (seen.reverse.takeWhile (· != 10)).length
  e.fault.message ++ " at line " ++ toString line ++ " column " ++ toString column

end OnionSwarm.Json

/-
The two framings of onion requests.

A hop payload is what one hop hands to the next: the length of the inner ciphertext as four bytes,
least significant first, the ciphertext, and the routing instructions as JSON up to the end.

A version 4 message is what the two ends exchange: `l`, the information as JSON behind its length
in decimal and a colon, then possibly a body behind its length, and `e`.
-/
import OnionSwarm.Json.Render
import OnionSwarm.Json.Written

namespace OnionSwarm.Framing

/-- Why bytes are not a framed message, or a message cannot be framed. -/
inductive FramingError where
  | truncated
  | badLength
  | missingMarker
  | trailingBytes
  /-- A section that should be JSON and is not; the wording of its fault. -/
  | badJson (reason : String)
  deriving DecidableEq, Repr

/-- The wording of an error. -/
def FramingError.message : FramingError → String
  | .truncated => "Payload truncated"
  | .badLength => "Malformed length prefix"
  | .missingMarker => "Missing list marker"
  | .trailingBytes => "Trailing bytes after message"
  | .badJson reason => "Invalid JSON: " ++ reason

/-- Reads a section of JSON. -/
def readJson (bytes : Bytes) : Except FramingError Json :=
  match Json.parse bytes with
  | .ok v => .ok v
  | .error e => .error (.badJson (e.message bytes))

/-! ### Hop payloads -/

/-- The first length that four bytes cannot hold. -/
def payloadLimit : Nat := 0x100000000

/-- Frames a ciphertext and routing instructions for a hop. -/
def encodePayload (ciphertext : Bytes) (routing : Json) : Except FramingError Bytes :=
  if ciphertext.length < payloadLimit then
    .ok (Bytes.littleEndian 4 ciphertext.length ++ ciphertext ++ routing.toBytes)
  else .error .badLength

/-- Takes a hop payload apart. -/
def decodePayload (bytes : Bytes) : Except FramingError (Bytes × Json) :=
  if bytes.length < 4 then .error .truncated
  else
    let length := Bytes.toNatLittle (bytes.take 4)
    let rest := bytes.drop 4
    if rest.length < length then .error .truncated
    else
      match readJson (rest.drop length) with
      | .ok routing => .ok (rest.take length, routing)
      | .error e => .error e

/-! ### Version 4 messages -/

/-- `l`, before the first section. -/
def listMarker : UInt8 := 108

/-- `e`, after the last section. -/
def endMarker : UInt8 := 101

/-- `:`, between the length of a section and the section. -/
def colon : UInt8 := 58

/-- The most digits that the length of a section may have. -/
def lengthDigits : Nat := 10

/-- A section behind its length. -/
def encodeSection (bytes : Bytes) : Bytes :=
  Text.Decimal.encode bytes.length ++ colon :: bytes

/-- Frames a message. -/
def encodeMessage (info : Json) (body : Option Bytes) : Bytes :=
  listMarker :: (encodeSection info.toBytes ++ (body.map encodeSection).getD [] ++ [endMarker])

/-- Is the byte a decimal digit? -/
def isDigit (b : UInt8) : Bool := 48 ≤ b && b ≤ 57

/-- The number that digits write. -/
def number (digits : Bytes) : Nat := digits.foldl (fun n d => 10 * n + (d.toNat - 48)) 0

/-- Reads a length up to its colon, and gives what follows. -/
def readLength (bytes : Bytes) : Except FramingError (Nat × Bytes) :=
  let digits := bytes.takeWhile (· != colon)
  match bytes.dropWhile (· != colon) with
  | [] => .error .badLength
  | _ :: rest =>
    if digits.isEmpty || !digits.all isDigit || lengthDigits < digits.length then
      .error .badLength
    else .ok (number digits, rest)

/-- Reads what follows the information: the end, or a body and the end.  An empty body counts as
none. -/
def readBody (bytes : Bytes) : Except FramingError (Option Bytes) :=
  match bytes with
  | [] => .error .missingMarker
  | _ =>
    if bytes = [endMarker] then .ok none
    else
      match readLength bytes with
      | .error e => .error e
      | .ok (length, rest) =>
        if rest.length < length + 1 then .error .truncated
        else if rest.drop length ≠ [endMarker] then .error .trailingBytes
        else .ok (if length = 0 then none else some (rest.take length))

/-- Takes a message apart. -/
def decodeMessage (bytes : Bytes) : Except FramingError (Json × Option Bytes) :=
  match bytes with
  | [] => .error .missingMarker
  | marker :: rest =>
    if marker ≠ listMarker then .error .missingMarker
    else
      match readLength rest with
      | .error e => .error e
      | .ok (length, rest) =>
        if rest.length < length then .error .truncated
        else
          match readJson (rest.take length) with
          | .error e => .error e
          | .ok info =>
            match readBody (rest.drop length) with
            | .ok body => .ok (info, body)
            | .error e => .error e

end OnionSwarm.Framing

/-
Reading byte strings as UTF-8.

`next` reads one character and says how many bytes it took.  Where no character starts it says
how many bytes belong together to the mistake: the longest beginning of a character that was cut
short, or a single byte.  The strict reader stops there, the lenient one writes one U+FFFD for
each such group.
-/
import OnionSwarm.Text.Bytes

namespace OnionSwarm.Text.Utf8

/-- A byte that can continue a character. -/
def isTail (b : UInt8) : Bool := 0x80 ≤ b && b ≤ 0xBF

/-- Can `b` be the second byte after the first byte `a`?  The narrower ranges keep out overlong
forms, surrogates and numbers beyond the last code point. -/
def isSecond (a b : UInt8) : Bool :=
  if a = 0xE0 then 0xA0 ≤ b && b ≤ 0xBF
  else if a = 0xED then 0x80 ≤ b && b ≤ 0x9F
  else if a = 0xF0 then 0x90 ≤ b && b ≤ 0xBF
  else if a = 0xF4 then 0x80 ≤ b && b ≤ 0x8F
  else isTail b

/-- How many bytes a character takes that starts with `a`; none if no character does. -/
def width? (a : UInt8) : Option Nat :=
  if a < 0x80 then some 1
  else if 0xC2 ≤ a && a ≤ 0xDF then some 2
  else if 0xE0 ≤ a && a ≤ 0xEF then some 3
  else if 0xF0 ≤ a && a ≤ 0xF4 then some 4
  else none

/-- One reading step. -/
inductive Step where
  /-- A character of `width + 1` bytes. -/
  | char (c : Char) (width : Nat)
  /-- `width + 1` bytes that belong to no character. -/
  | broken (width : Nat)
  deriving DecidableEq, Repr

/-- Reads at byte `a` with `rest` after it. -/
def next (a : UInt8) (rest : Bytes) : Step :=
  match width? a with
  | none => .broken 0
  | some 1 => .char (Char.ofNat a.toNat) 0
  | some w =>
    match rest with
    | [] => .broken 0
    | b :: rest =>
      if !isSecond a b then .broken 0
      else if w = 2 then .char (Char.ofNat ((a.toNat - 0xC0) * 64 + (b.toNat - 0x80))) 1
      else
        match rest with
        | [] => .broken 1
        | c :: rest =>
          if !isTail c then .broken 1
          else if w = 3 then
            .char (Char.ofNat
              (((a.toNat - 0xE0) * 64 + (b.toNat - 0x80)) * 64 + (c.toNat - 0x80))) 2
          else
            match rest with
            | [] => .broken 2
            | d :: _ =>
              if !isTail d then .broken 2
              else .char (Char.ofNat ((((a.toNat - 0xF0) * 64 + (b.toNat - 0x80)) * 64
                + (c.toNat - 0x80)) * 64 + (d.toNat - 0x80))) 3

/-- The characters of a byte string, skipping `skip` bytes that were already read. -/
def chars? : (skip : Nat) → Bytes → Option (List Char)
  | _, [] => some []
  | skip + 1, _ :: rest => chars? skip rest
  | 0, a :: rest =>
    match next a rest with
    | .char c width => (chars? width rest).map (c :: ·)
    | .broken _ => none

/-- The text of a byte string, if it is well formed. -/
def decode? (bytes : Bytes) : Option String :=
  (chars? 0 bytes).map String.ofList

/-- The characters of a byte string, U+FFFD where it is not well formed. -/
def lossyChars : (skip : Nat) → Bytes → List Char
  | _, [] => []
  | skip + 1, _ :: rest => lossyChars skip rest
  | 0, a :: rest =>
    match next a rest with
    | .char c width => c :: lossyChars width rest
    | .broken width => '\uFFFD' :: lossyChars width rest

/-- The text of a byte string, U+FFFD for each longest stretch that is not well formed. -/
def lossy (bytes : Bytes) : String :=
  String.ofList (lossyChars 0 bytes)

end OnionSwarm.Text.Utf8

/-
Where a file is, and how the directory of a place is made.

A location is written as pieces with strokes between them.  A piece that is empty or a single dot
names nothing and leads nowhere; still it counts in the length of what is written, and a dot at the
end asks for a directory that is there already, so such a directory is never made.

To make a directory, everything on the way to it is made first.  What stands for a step back is a
step like any other, so the directory from which it goes back is made too.
-/
import OnionSwarm.Text.Bytes

namespace OnionSwarm

/-- Why a file or a directory cannot be had. -/
inductive FileFailure where
  | missing
  | taken
  | notDirectory
  | isDirectory
  | nameTooLong
  | emptyCharacter
  | other (cause : String)
  deriving DecidableEq, Repr

/-- The failure in words. -/
def FileFailure.message : FileFailure → String
  | .missing => "No such file or directory (os error 2)"
  | .taken => "File exists (os error 17)"
  | .notDirectory => "Not a directory (os error 20)"
  | .isDirectory => "Is a directory (os error 21)"
  | .nameTooLong => "File name too long (os error 36)"
  | .emptyCharacter => "file name contained an unexpected NUL byte"
  | .other cause => cause

/-- What is in a file, if it is there, or why that cannot be found out. -/
abbrev FileContents := Except FileFailure (Option Bytes)

/-- Where a file is, as it is written. -/
structure Location where
  /-- The pieces between the strokes, the last one first. -/
  pieces : List String
  deriving DecidableEq, Repr

namespace Location

/-- The location that a text names. -/
def ofText (s : String) : Location := ⟨(s.splitOn "/").reverse⟩

/-- The location as it is written. -/
def text (l : Location) : String := "/".intercalate l.pieces.reverse

/-- Does a piece name nothing? -/
def isVoid (piece : String) : Bool := piece = "" || piece = "."

/-- The names that lead to the location, the last one first; a dot at the end is one of them. -/
def names (l : Location) : List String :=
  let named := l.pieces.filter (· != "")
  let kept := named.filter (· != ".")
  if named.head? = some "." then "." :: kept else kept

/-- Something in the directory. -/
def child (l : Location) (name : String) : Location :=
  match l.pieces with
  | "" :: rest => ⟨name :: rest⟩
  | pieces => ⟨name :: pieces⟩

/-- The directory in which the location is. -/
def above (l : Location) : Location :=
  ⟨((l.pieces.dropWhile isVoid).drop 1).dropWhile isVoid⟩

theorem length_above_lt {l : Location} (h : l.pieces ≠ []) :
    l.above.pieces.length < l.pieces.length := by
  have first := (List.dropWhile_sublist isVoid (l := l.pieces)).length_le
  have second := (List.dropWhile_sublist isVoid
    (l := (l.pieces.dropWhile isVoid).drop 1)).length_le
  have nonempty := List.length_pos_iff.2 h
  simp only [above, List.length_drop] at second ⊢
  omega

/-- How directories are made somewhere. -/
structure Maker (m : Type → Type) where
  /-- Makes one directory, unless that fails. -/
  make : Location → m (Option FileFailure)
  /-- Is there a directory? -/
  isDirectory : Location → m Bool

variable {m : Type → Type} [Monad m]

/-- Makes one directory, and is content if it is there already. -/
def Maker.ensure (maker : Maker m) (l : Location) : m (Option FileFailure) := do
  match ← maker.make l with
  | none => return none
  | some e => return if ← maker.isDirectory l then none else some e

/-- A directory is there, or the reason why it cannot be.  What is written with nothing is always
there. -/
def Maker.prepare (maker : Maker m) (l : Location) : m (Option FileFailure) :=
  if l.pieces = [] ∨ l.pieces = [""] then return none
  else do
    match ← maker.ensure l with
    | some .missing =>
      match ← maker.prepare l.above with
      | none => maker.ensure l
      | some e => return some e
    | result => return result
  termination_by l.pieces.length
  decreasing_by exact length_above_lt fun noPiece => ‹¬_› (Or.inl noPiece)

end Location
end OnionSwarm

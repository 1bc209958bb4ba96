/-
Records in JSON text.

A record is an object, read by the names of its fields, or an array, read by their order.  A field
may stand once only; a field that the record does not have is passed over unread.  From an array
the last fields may be left out.  What a field is when it is left out, and whether it may be, is
for the record to say.

A choice between kinds of record is marked by the member `kind`, or by the first item of an array.

Everything is read in the order in which it is written, and the first fault is the one reported.  So
a field is taken as soon as it is met, and that a field is missing is known only at the end.
-/
import OnionSwarm.Json.Written
import OnionSwarm.Text.Quoted

namespace OnionSwarm.Json

namespace Written

/-- What a value is called where another one was wanted. -/
def called : Written → String
  | .null => "null"
  | .bool b => "boolean " ++ toString b
  | .number (some (.int i)) => "integer " ++ toString i
  | .number _ => "floating point number"
  | .text (some s) => "string " ++ Text.Quoted.ofText s
  | .text none => "string"
  | .array _ _ => "sequence"
  | .object _ _ => "map"
  | .broken _ => "nothing"

/-- The fault of a value that is not of the wanted kind: its own, if it is not even a value. -/
def mismatch (wanted : String) : Written → ReadError
  | .number none => ⟨.outOfRange, 0⟩
  | .text none => ⟨.badText, 0⟩
  | .broken e => e
  | w => ⟨.wrongType w.called wanted, 0⟩

/-- A whole number of at most `last`. -/
def asNat (last : Nat) (wanted : String) : Written → Except ReadError Nat
  | .number (some (.int i)) =>
    if 0 ≤ i ∧ i ≤ last then .ok i.toNat else fail (.wrongValue ("integer " ++ toString i) wanted)
  | w => .error (w.mismatch wanted)

/-- A text. -/
def asString : Written → Except ReadError String
  | .text (some s) => .ok s
  | w => .error (w.mismatch "a string")

/-- A text that may be null. -/
def asString? : Written → Except ReadError (Option String)
  | .null => .ok none
  | w => some <$> w.asString

/-- A truth value. -/
def asBool : Written → Except ReadError Bool
  | .bool b => .ok b
  | w => .error (w.mismatch "a boolean")

/-- A list, each item read by `item`. -/
def asList {α : Type} (item : Written → Except ReadError α) : Written → Except ReadError (List α)
  | .array items stop => unlessStopped stop (items.mapM item)
  | w => .error (w.mismatch "a sequence")

end Written

/-- How a record is read: what is known of it so far, and how each field adds to that. -/
structure Record (α : Type) where
  /-- The names of the fields, in order. -/
  names : List String
  /-- What may be known while the record is read. -/
  State : Type
  /-- What is known at first. -/
  start : State
  /-- Takes a field that the record has. -/
  take : String → Written → State → Except ReadError State
  /-- The record, once no more fields come. -/
  finish : State → Except ReadError α

namespace Record

variable {α β : Type}

/-- A record without fields. -/
def of (a : α) : Record α := ⟨[], Unit, (), fun _ _ => .ok, fun _ => .ok a⟩

/-- A record of one field, with what is made of it if it is left out. -/
def field (name : String) (absent : Except ReadError α) (reader : Written → Except ReadError α) :
    Record α :=
  ⟨[name], Option α, none, fun _ w _ => some <$> reader w, fun found => found.elim absent .ok⟩

/-- A record of one field that must be there. -/
def required (name : String) (reader : Written → Except ReadError α) : Record α :=
  field name (fail (.missingField name)) reader

/-- A record of one field that has a value when it is left out. -/
def optional (name : String) (absent : α) (reader : Written → Except ReadError α) : Record α :=
  field name (.ok absent) reader

/-- A record with the fields of two. -/
def apply (f : Record (α → β)) (r : Record α) : Record β where
  names := f.names ++ r.names
  State := f.State × r.State
  start := (f.start, r.start)
  take name w s :=
    if name ∈ f.names then (fun known => (known, s.2)) <$> f.take name w s.1
    else (fun known => (s.1, known)) <$> r.take name w s.2
  finish s :=
    match f.finish s.1 with
    | .error e => .error e
    | .ok make => make <$> r.finish s.2

instance : Applicative Record where
  pure := of
  seq f r := apply f (r ())

/-- Takes the members of an object; `seen` are the fields that were met before. -/
def takeMembers (r : Record α) (seen : List String) (s : r.State) :
    List (Option String × Written) → Except ReadError r.State
  | [] => .ok s
  | (none, _) :: _ => fail .badText
  | (some name, w) :: rest =>
    if name ∈ r.names then
      if name ∈ seen then fail (.repeatedField name)
      else
        match r.take name w s with
        | .error e => .error e
        | .ok s => takeMembers r (name :: seen) s rest
    else takeMembers r seen s rest

/-- Takes the items of an array, one for each name. -/
def takeItems (r : Record α) (s : r.State) :
    (names : List String) → List Written → Except ReadError r.State
  | _, [] => .ok s
  | [], _ :: _ => fail .trailing
  | name :: names, w :: rest =>
    match r.take name w s with
    | .error e => .error e
    | .ok s => takeItems r s names rest

/-- Reads a record of some name. -/
def read (r : Record α) (what : String) (w : Written) : Except ReadError α :=
  let known :=
    match w with
    | .object members stop => unlessStopped stop (r.takeMembers [] r.start members)
    | .array items stop => unlessStopped stop (r.takeItems r.start r.names items)
    | w => .error (w.mismatch what)
  match known with
  | .ok s => r.finish s
  | .error e => .error e

end Record

/-- A choice between kinds of record. -/
structure Choice (κ : Type) where
  /-- What is chosen. -/
  what : String
  /-- All kinds, with their names. -/
  kinds : List (String × κ)

namespace Choice

variable {κ : Type}

/-- Reads the name of a kind. -/
def kind (c : Choice κ) : Written → Except ReadError κ
  | .text (some name) =>
    match c.kinds.lookup name with
    | some k => .ok k
    | none => fail (.unknownKind name (", ".intercalate (c.kinds.map Prod.fst)))
  | w => .error (w.mismatch "the name of a kind")

/-- Reads the kind among the members of an object, and leaves the others, which must be values of
at most `levels` arrays and objects inside one another. -/
def members (c : Choice κ) (levels : Nat) (found : Option κ) :
    List (Option String × Written) →
      Except ReadError (Option κ × List (Option String × Written))
  | [] => .ok (found, [])
  | (none, _) :: _ => fail .badText
  | (some name, w) :: rest =>
    if name = "kind" then
      match found with
      | some _ => fail (.repeatedField name)
      | none =>
        match c.kind w with
        | .error e => .error e
        | .ok k => members c levels (some k) rest
    else
      match w.value? levels with
      | .error e => .error e
      | .ok _ =>
        (fun (found, left) => (found, (some name, w) :: left)) <$> members c levels found rest

/-- Reads the kind from the first item of an array, and leaves the others, which must be values of
at most `levels` arrays and objects inside one another. -/
def items (c : Choice κ) (levels : Nat) :
    List Written → Except ReadError (Option κ × List Written)
  | [] => .ok (none, [])
  | w :: rest =>
    match c.kind w with
    | .error e => .error e
    | .ok k =>
      match Written.items? levels rest with
      | .error e => .error e
      | .ok _ => .ok (some k, rest)

/-- The kind that was found, and what its own fields are read from. -/
def found {α : Type} (left : α → Written) (result : Except ReadError (Option κ × α)) :
    Except ReadError (κ × Written) :=
  match result with
  | .error e => .error e
  | .ok (none, _) => fail (.missingField "kind")
  | .ok (some k, rest) => .ok (k, left rest)

/-- Reads a choice inside `depth` arrays and objects: its kind, and what the fields of that kind are
to be read from. -/
def read (c : Choice κ) (depth : Nat) : Written → Except ReadError (κ × Written)
  | .object ms stop =>
    found (.object · none) (unlessStopped stop (c.members (deepest - depth - 1) none ms))
  | .array ws stop =>
    found (.array · none) (unlessStopped stop (c.items (deepest - depth - 1) ws))
  | w => .error (w.mismatch c.what)

/-- Reads a record without fields: members of an object are passed over, but an array has to be
empty. -/
def noFields : Written → Except ReadError Unit
  | .array (_ :: _) _ => fail .trailing
  | _ => .ok ()

end Choice
end OnionSwarm.Json

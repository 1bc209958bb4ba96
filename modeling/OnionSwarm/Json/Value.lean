/-
JSON values.

An object is a list of members.  In a value that was read, or built with `Json.ofMembers`, the
keys are distinct and in ascending order, so that equal objects are equal values; a list in another
order is used only to print the fields of a record in their own order.

Whole numbers that fit 64 bits, signed or not, are kept exactly; every other number is a double,
kept as its bit pattern so that equality of values is decidable.
-/

namespace OnionSwarm

/-- A JSON number. -/
inductive Number where
  /-- A whole number between the least signed and the greatest unsigned 64-bit number. -/
  | int (i : Int)
  /-- The double with these bits. -/
  | double (bits : UInt64)
  deriving DecidableEq, Repr, Inhabited

/-- A JSON value. -/
inductive Json where
  | null
  | bool (b : Bool)
  | number (n : Number)
  | text (s : String)
  | array (items : List Json)
  | object (members : List (String × Json))
  deriving Repr, Inhabited, BEq

namespace Json

/-- Adds a member, keys ascending; a member with the same key gives way. -/
def insertMember (key : String) (value : Json) :
    List (String × Json) → List (String × Json)
  | [] => [(key, value)]
  | (k, v) :: rest =>
    if key < k then (key, value) :: (k, v) :: rest
    else if key = k then (key, value) :: rest
    else (k, v) :: insertMember key value rest

/-- Adds a member, keys ascending, unless there is one with the same key. -/
def insertNewMember (key : String) (value : Json) :
    List (String × Json) → List (String × Json)
  | [] => [(key, value)]
  | (k, v) :: rest =>
    if key < k then (key, value) :: (k, v) :: rest
    else if key = k then (k, v) :: rest
    else (k, v) :: insertNewMember key value rest

/-- The object with these members, the last of equal keys counting.  The last comes first, so that
members whose keys ascend already are put in place at once. -/
def ofMembers (members : List (String × Json)) : Json :=
  .object (members.foldr (fun m sorted => insertNewMember m.1 m.2 sorted) [])

/-- A natural number. -/
def nat (n : Nat) : Json := .number (.int n)

/-- The member of an object. -/
def get? (key : String) : Json → Option Json
  | .object members => members.lookup key
  | _ => none

theorem lookup_insertNewMember_of_ne {key k : String} (value : Json) (ms : List (String × Json))
    (ne : k ≠ key) : (insertNewMember key value ms).lookup k = ms.lookup k := by
  have other : (k == key) = false := beq_false_of_ne ne
  induction ms with
  | nil => rw [insertNewMember, List.lookup_cons, other]
  | cons m ms ih =>
    rw [insertNewMember]
    split
    · rw [List.lookup_cons, other]
    · split
      · rfl
      · rw [List.lookup_cons, List.lookup_cons, ih]

theorem lookup_insertNewMember_self {key : String} (value : Json) {ms : List (String × Json)}
    (new : ms.lookup key = none) : (insertNewMember key value ms).lookup key = some value := by
  induction ms with
  | nil => simp [insertNewMember]
  | cons m ms ih =>
    cases same : key == m.1 with
    | true =>
      rw [List.lookup_cons, same] at new
      cases new
    | false =>
      rw [List.lookup_cons, same] at new
      rw [insertNewMember, if_neg (ne_of_beq_false same)]
      split
      · simp
      · rw [List.lookup_cons, same, ih new]

/-- Another member makes no difference to what an object has under a key. -/
theorem get?_ofMembers_of_ne {key k : String} (value : Json) (ms : List (String × Json))
    (ne : k ≠ key) : (ofMembers ((key, value) :: ms)).get? k = (ofMembers ms).get? k :=
  lookup_insertNewMember_of_ne value _ ne

theorem get?_ofMembers_self {key : String} (value : Json) {ms : List (String × Json)}
    (new : (ofMembers ms).get? key = none) :
    (ofMembers ((key, value) :: ms)).get? key = some value :=
  lookup_insertNewMember_self value new

@[simp]
theorem get?_ofMembers_nil (key : String) : (ofMembers []).get? key = none := rfl

/-- The same object with one more member; other values stay as they are. -/
def insert (v : Json) (key : String) (value : Json) : Json :=
  match v with
  | .object members => .object (insertMember key value members)
  | other => other

/-- The text, of a value that is one. -/
def asText? : Json → Option String
  | .text s => some s
  | _ => none

theorem asText?_eq_some_iff {v : Json} {s : String} : v.asText? = some s ↔ v = .text s := by
  cases v <;> simp [asText?]

/-- The natural number, of a value that is a whole number and not negative. -/
def asNat? : Json → Option Nat
  | .number (.int (.ofNat n)) => some n
  | _ => none

theorem asNat?_eq_some_iff {v : Json} {n : Nat} : v.asNat? = some n ↔ v = .nat n := by
  constructor
  · intro natural
    unfold asNat? at natural
    split at natural
    · rw [← Option.some.inj natural]
      rfl
    · cases natural
  · rintro rfl
    rfl

/-- The items, of a value that is an array. -/
def asArray? : Json → Option (List Json)
  | .array items => some items
  | _ => none

/-- The members, of a value that is an object. -/
def asObject? : Json → Option (List (String × Json))
  | .object members => some members
  | _ => none

/-- Is the value an object? -/
def isObject : Json → Bool
  | .object _ => true
  | _ => false

mutual
/-- The value with every object's members in ascending order. -/
def sorted : Json → Json
  | .array items => .array (sortedItems items)
  | .object members => ofMembers (sortedMembers members)
  | v => v

/-- The items, each with its objects in order. -/
def sortedItems : List Json → List Json
  | [] => []
  | v :: rest => v.sorted :: sortedItems rest

/-- The members, each with its objects in order. -/
def sortedMembers : List (String × Json) → List (String × Json)
  | [] => []
  | (k, v) :: rest => (k, v.sorted) :: sortedMembers rest
end

end Json
end OnionSwarm

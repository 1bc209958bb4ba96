/-
Looking into JSON values whose form is only loosely fixed: what is missing, or of another type, is
as good as a given value.
-/
import OnionSwarm.Json.Value

namespace OnionSwarm.Json

/-- The member under a key; null if there is none. -/
def field (v : Json) (key : String) : Json := (v.get? key).getD .null

/-- Is there a member under the key that is not null? -/
def has (v : Json) (key : String) : Bool :=
  match v.get? key with
  | none | some .null => false
  | some _ => true

/-- The items of an array; none of anything else. -/
def items (v : Json) : List Json := v.asArray?.getD []

/-- The members of an object; none of anything else. -/
def members (v : Json) : List (String × Json) := v.asObject?.getD []

/-- The natural number under a key. -/
def natAt (v : Json) (key : String) (absent : Nat) : Nat :=
  ((v.get? key).bind asNat?).getD absent

/-- The whole number under a key. -/
def intAt (v : Json) (key : String) : Int :=
  match v.get? key with
  | some (.number (.int i)) => i
  | _ => 0

/-- The truth value under a key. -/
def boolAt (v : Json) (key : String) (absent : Bool) : Bool :=
  match v.get? key with
  | some (.bool b) => b
  | _ => absent

/-- A truth value or a default. -/
def boolD (v : Json) (absent : Bool) : Bool :=
  match v with
  | .bool b => b
  | _ => absent

mutual
/-- The value with every text in it changed; names of members stay. -/
def mapTexts (change : String → String) : Json → Json
  | .text s => .text (change s)
  | .array items => .array (mapItems change items)
  | .object members => .object (mapMembers change members)
  | v => v

/-- The items, each with its texts changed. -/
def mapItems (change : String → String) : List Json → List Json
  | [] => []
  | v :: rest => v.mapTexts change :: mapItems change rest

/-- The members, each with its texts changed. -/
def mapMembers (change : String → String) : List (String × Json) → List (String × Json)
  | [] => []
  | (k, v) :: rest => (k, v.mapTexts change) :: mapMembers change rest
end

end OnionSwarm.Json

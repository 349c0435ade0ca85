/-
How JSON values stand for components. A record is an object with named fields, or
an array that lists the fields in order; a field that is known may stand only once
and a field that is not known is passed over. A choice is the name of a variant,
or an object with that name as its only key and the content of the variant under
it.
-/

import SchemaAssessment.Json.Reader
import SchemaAssessment.Number.Digits

namespace SchemaAssessment.Json

/-! ### Plain values -/

/-- A JSON string. -/
def toText : Json → Except Fault String
  | .string text => .ok text
  | _ => .error (.expected "a string")

/-- A JSON truth value. -/
def toBool : Json → Except Fault Bool
  | .bool value => .ok value
  | _ => .error (.expected "a boolean")

/-- A natural number below a bound. -/
def toNatBelow (bound : Nat) : Json → Except Fault Nat
  | .whole (.ofNat value) => if value < bound then .ok value else .error .outOfRange
  | .whole (.negSucc _) => .error .outOfRange
  | _ => .error (.expected "a whole number")

/-- A natural number of 32 bits. -/
def toCount : Json → Except Fault Nat := toNatBelow (twoTo 32)

/-- A natural number of 64 bits. -/
def toSize : Json → Except Fault Nat := toNatBelow (twoTo 64)

/-- A value that `null` leaves absent. -/
def toOption (decode : Json → Except Fault α) : Json → Except Fault (Option α)
  | .null => .ok none
  | json => (decode json).map some

/-- The items of an array. -/
def toList (decode : Json → Except Fault α) : Json → Except Fault (List α)
  | .array items => items.mapM decode
  | _ => .error (.expected "an array")

/-- The members of an object, in order. -/
def toMembers (decode : Json → Except Fault α) : Json → Except Fault (List (String × α))
  | .object members => members.mapM fun (key, value) => (decode value).map fun value => (key, value)
  | _ => .error (.expected "an object")

/-! ### Records -/

/-- The fields of a record as far as they are given. -/
structure Fields where
  /-- The fields stand in an array, by position. -/
  positional : Bool
  /-- The fields by name. -/
  values : List (String × Json)

/-- The value of a known field of an object. It is a fault if the field stands twice. -/
def uniqueMember (members : List (String × Json)) (name : String) :
    Except Fault (Option (String × Json)) :=
  match members.filter (·.1 == name) with
  | [] => .ok none
  | [(_, value)] => .ok (some (name, value))
  | _ => .error (.duplicate name)

/-- Reads a value as a record with the given field names. -/
def toFields (names : List String) : Json → Except Fault Fields
  | .object members => do
    let values ← names.mapM (uniqueMember members)
    return ⟨false, values.filterMap id⟩
  | .array items =>
    if items.length ≤ names.length then .ok ⟨true, names.zip items⟩
    else .error (.expected "fewer fields")
  | _ => .error (.expected "a record")

/-- A field that has to be given. -/
def Fields.required (fields : Fields) (name : String) (decode : Json → Except Fault α) :
    Except Fault α :=
  match fields.values.lookup name with
  | some json => decode json
  | none => .error (.missing name)

/-- A field that takes a value of its own when it is not given. -/
def Fields.defaulting (fields : Fields) (name : String) (value : α)
    (decode : Json → Except Fault α) : Except Fault α :=
  match fields.values.lookup name with
  | some json => decode json
  | none => .ok value

/-- A field that is absent when it is not given. -/
def Fields.optional (fields : Fields) (name : String) (decode : Json → Except Fault α) :
    Except Fault (Option α) :=
  fields.defaulting name none (toOption decode)

/-- A field that is absent when an object does not give it. An array has to list it. -/
def Fields.nullable (fields : Fields) (name : String) (decode : Json → Except Fault α) :
    Except Fault (Option α) :=
  match fields.values.lookup name with
  | some json => toOption decode json
  | none => if fields.positional then .error (.missing name) else .ok none

/-- A list that is empty when it is not given. -/
def Fields.listOf (fields : Fields) (name : String) (decode : Json → Except Fault α) :
    Except Fault (List α) :=
  fields.defaulting name [] (toList decode)

/-! ### Choices -/

/-- The name of a variant and its content, which is absent when only the name is given. -/
def toVariant : Json → Except Fault (String × Option Json)
  | .string name => .ok (name, none)
  | .object [(name, content)] => .ok (name, some content)
  | _ => .error (.expected "a variant")

/-- A variant without content: its name alone, or its name over `null`. -/
def toName (json : Json) : Except Fault String :=
  match toVariant json with
  | .ok (name, none) => .ok name
  | .ok (name, some .null) => .ok name
  | .ok _ => .error (.expected "no content")
  | .error fault => .error fault

/-- One of finitely many named values. -/
def toNamed (table : List (String × α)) (json : Json) : Except Fault α := do
  let name ← toName json
  match table.lookup name with
  | some value => .ok value
  | none => .error (.unknown name)

/-- A variant over its content. -/
def variant (name : String) (content : Json) : Json := .object [(name, content)]

end SchemaAssessment.Json

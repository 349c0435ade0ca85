/-
JSON values. Objects keep their members in order, repeated keys included, because
the order of a grammar's members decides the order of its declarations. Numbers
are whole, or kept as the literal that was read: no component of a grammar holds
a fraction. Text of good form may hold parts that stand for nothing. They do no harm
where nobody asks for them, so they have a value of their own.
-/

namespace SchemaAssessment

/-- A JSON value. -/
inductive Json where
  | null
  | bool (value : Bool)
  | whole (value : Int)
  | literal (text : String)
  | string (text : String)
  | array (items : List Json)
  | object (members : List (String × Json))
  /-- A string that holds half of a surrogate pair, an object with such a key, or an array or
  object inside too many brackets. -/
  | unreadable
  deriving Inhabited, Repr

namespace Json

mutual

/-- How many brackets are open at the innermost place of a value. -/
def depth : Json → Nat
  | .array items => depthOfItems items + 1
  | .object members => depthOfMembers members + 1
  | _ => 0

/-- The greatest depth among array items. -/
def depthOfItems : List Json → Nat
  | [] => 0
  | item :: rest => max item.depth (depthOfItems rest)

/-- The greatest depth among object members. -/
def depthOfMembers : List (String × Json) → Nat
  | [] => 0
  | (_, value) :: rest => max value.depth (depthOfMembers rest)

end

/-- A natural number as a JSON value. -/
def nat (n : Nat) : Json := .whole n

/-- A text that may be absent, as a JSON value. -/
def ofOption (encode : α → Json) : Option α → Json
  | none => .null
  | some value => encode value

/-- An object made of the members that are present. -/
def ofMembers (members : List (Option (String × Json))) : Json :=
  .object (members.filterMap id)

/-- A member that is always written. -/
def member (key : String) (value : Json) : Option (String × Json) := some (key, value)

/-- A member that is left out when the value is absent. -/
def memberOf (key : String) (encode : α → Json) (value : Option α) : Option (String × Json) :=
  value.map fun value => (key, encode value)

/-- A member that is left out when the list is empty. -/
def memberOfList (key : String) (encode : α → Json) (values : List α) : Option (String × Json) :=
  if values.isEmpty then none else some (key, .array (values.map encode))

end Json

end SchemaAssessment

/-
Identity constraints as they are declared: the elements that a selector selects are
told apart by the values that the fields find from there, or have to refer to such
values.
-/

import SchemaAssessment.Name.Expanded

namespace SchemaAssessment

/-- The kinds of identity constraints. -/
inductive IdentityKind where
  | unique
  | key
  | keyRef
  deriving DecidableEq, Repr, Inhabited

namespace IdentityKind

/-- The names of the kinds. -/
def names : List (String × IdentityKind) := [
  ("unique", .unique), ("key", .key), ("keyref", .keyRef)]

/-- The name of a kind. -/
def name : IdentityKind → String
  | .unique => "unique"
  | .key => "key"
  | .keyRef => "keyref"

end IdentityKind

/-- An identity constraint. The paths are kept as text, with the prefixes that they use in the
order of their names. -/
structure IdentityConstraint where
  name : ExpandedName
  kind : IdentityKind
  selector : String
  fields : List String
  refer : Option ExpandedName
  bindings : List (String × String)
  deriving DecidableEq, Repr, Inhabited

namespace IdentityConstraint

/-- Binds a prefix, keeping the prefixes in order. -/
def insertBinding (prefixName space : String) : List (String × String) → List (String × String)
  | [] => [(prefixName, space)]
  | (other, bound) :: rest =>
    if prefixName == other then (other, space) :: rest
    else if prefixName < other then (prefixName, space) :: (other, bound) :: rest
    else (other, bound) :: insertBinding prefixName space rest

/-- The bindings in the order of their prefixes; the last binding of a prefix counts. -/
def sortBindings (bindings : List (String × String)) : List (String × String) :=
  bindings.foldl (fun sorted binding => insertBinding binding.1 binding.2 sorted) []

/-- The constraint refers to the values of another. -/
def isKeyRef (identity : IdentityConstraint) : Bool := identity.kind == .keyRef

/-- The constraint is a key. -/
def isKey (identity : IdentityConstraint) : Bool := identity.kind == .key

end IdentityConstraint

end SchemaAssessment

/-
Attribute declarations, the uses that a type makes of them, and the uses and the
wildcard of a type together. How a declaration refers to its type is left open.
-/

import SchemaAssessment.Name.Expanded
import SchemaAssessment.Schema.Derivation
import SchemaAssessment.Schema.Wildcard

namespace SchemaAssessment

/-- An attribute declaration. Without a type it takes any text. -/
structure AttributeDeclaration (τ : Type) where
  name : ExpandedName
  type : Option τ := none
  constraint : Option ValueConstraint := none
  deriving Repr, Inhabited

/-- Whether an attribute has to be given, may be given, or may not. -/
inductive UseMode where
  | optional
  | required
  | prohibited
  deriving DecidableEq, Repr, Inhabited

namespace UseMode

/-- The names of the modes. -/
def names : List (String × UseMode) := [
  ("optional", .optional), ("required", .required), ("prohibited", .prohibited)]

/-- The mode with a name. -/
def ofName? (name : String) : Option UseMode := names.lookup name

/-- The name of a mode. -/
def name : UseMode → String
  | .optional => "optional"
  | .required => "required"
  | .prohibited => "prohibited"

end UseMode

/-- The use that a type makes of an attribute. -/
structure AttributeUse (τ : Type) where
  declaration : AttributeDeclaration τ
  mode : UseMode := .optional
  constraint : Option ValueConstraint := none
  deriving Repr, Inhabited

namespace AttributeUse

variable {τ : Type}

/-- The attribute has to be given. -/
def isRequired (use : AttributeUse τ) : Bool := use.mode == .required

/-- The attribute may not be given. -/
def isProhibited (use : AttributeUse τ) : Bool := use.mode == .prohibited

/-- The value that is supplied: that of the use, else that of the declaration. -/
def effectiveConstraint (use : AttributeUse τ) : Option ValueConstraint :=
  use.constraint.or use.declaration.constraint

end AttributeUse

/-- The attributes of a type. -/
structure AttributeGroup (τ : Type) where
  uses : List (AttributeUse τ) := []
  wildcard : Option Wildcard := none
  deriving Repr, Inhabited

namespace AttributeGroup

variable {τ : Type}

/-- No use and no wildcard. -/
def isEmpty (group : AttributeGroup τ) : Bool := group.uses.isEmpty && group.wildcard.isNone

/-- The first use of the name that is not prohibited. -/
def use? (group : AttributeGroup τ) (name : ExpandedName) : Option (AttributeUse τ) :=
  group.uses.find? fun use => !use.isProhibited && use.declaration.name == name

end AttributeGroup

end SchemaAssessment

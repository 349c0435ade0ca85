/-
Identity constraints with their paths read. A constraint without fields, or with a
path that is malformed, is an error when it is made and is left out of account when
documents are validated.
-/

import SchemaAssessment.Path.Reader
import SchemaAssessment.Schema.Identity

namespace SchemaAssessment

/-- The paths of an identity constraint. -/
structure CompiledIdentity where
  selector : IdentityPath
  fields : List IdentityPath
  deriving DecidableEq, Repr, Inhabited

/-- Why an identity constraint is malformed. -/
inductive IdentityFault where
  | noName
  | noSelector
  | noReference
  | noField (name : ExpandedName)
  | path (fault : PathFault) (kind : IdentityKind) (name : ExpandedName) (expression : String)
  deriving DecidableEq, Repr, Inhabited

/-- A message with the place that it speaks of and the text found there. -/
structure LocatedMessage where
  summary : String
  location : Option String := none
  source : Option String := none
  deriving DecidableEq, Repr, Inhabited

/-- The message with its place and source set below. -/
def LocatedMessage.text (message : LocatedMessage) : String :=
  message.summary ++
    (message.location.map fun location => "\n\nLocation: " ++ location).getD "" ++
    (message.source.map fun source => "\n\nSource:\n" ++ source).getD ""

/-- The message about a malformed path in an expression. -/
def PathFault.located (fault : PathFault) (location : Option String) (expression : String) :
    LocatedMessage :=
  ⟨fault.message, location, if fault.showsSource then some expression else none⟩

/-- The message about a malformed constraint. -/
def IdentityFault.message : IdentityFault → LocatedMessage
  | .noName => { summary := "identity constraint must have a name" }
  | .noSelector => { summary := "identity constraint must have a selector" }
  | .noReference => { summary := "keyref must have a 'refer' attribute" }
  | .noField name =>
    { summary := s!"identity constraint '{name.text}' must have at least one field" }
  | .path fault kind name expression =>
    fault.located (some s!"{kind.name} '{name.text}'") expression

namespace IdentityConstraint

/-- Reads one of the paths of a constraint. -/
def readPath (identity : IdentityConstraint) (role : IdentityPath.Role) (expression : String) :
    Except IdentityFault IdentityPath :=
  match IdentityPath.read role (.ofBindings identity.bindings) expression with
  | .ok path => .ok path
  | .error fault => .error (.path fault identity.kind identity.name expression)

/-- Reads the paths of a constraint. -/
def compile (identity : IdentityConstraint) : Except IdentityFault CompiledIdentity := do
  if identity.fields.isEmpty then throw (.noField identity.name)
  let selector ← identity.readPath .selector identity.selector
  let fields ← identity.fields.mapM (identity.readPath .field)
  return ⟨selector, fields⟩

/-- The constraint made of the parts that were given, once its paths are known to be well
formed. -/
def build (name : Option ExpandedName) (kind : IdentityKind) (selector : Option String)
    (fields : List String) (refer : Option ExpandedName) (bindings : List (String × String)) :
    Except IdentityFault IdentityConstraint := do
  let some name := name | throw .noName
  let some selector := selector | throw .noSelector
  if kind == .keyRef && refer.isNone then throw .noReference
  let identity : IdentityConstraint := ⟨name, kind, selector, fields, refer, sortBindings bindings⟩
  let _ ← identity.compile
  return identity

end IdentityConstraint

end SchemaAssessment

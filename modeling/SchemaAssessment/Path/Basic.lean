/-
The paths of identity constraints. A path is a union of alternatives; each of them
goes down by steps from a context element, either from the element itself or from
any element below it. A step stays where it is, goes to a child, or ends at an
attribute.
-/

import SchemaAssessment.Name.Expanded

namespace SchemaAssessment

/-- Where a step leads. -/
inductive StepAxis where
  | child
  | attribute
  | self
  deriving DecidableEq, Repr, Inhabited

/-- The axis as a word. -/
def StepAxis.name : StepAxis → String
  | .child => "child"
  | .attribute => "attribute"
  | .self => "self"

/-- Which names a step takes. -/
inductive NameTest where
  | any
  | space (uri : String)
  | name (wanted : ExpandedName)
  deriving DecidableEq, Repr, Inhabited

/-- The name is taken. -/
def NameTest.holds (test : NameTest) (name : ExpandedName) : Bool :=
  match test with
  | .any => true
  | .space wanted => name.space == some wanted
  | .name wanted => name == wanted

/-- A step of a path. -/
structure Step where
  axis : StepAxis
  test : NameTest
  deriving DecidableEq, Repr, Inhabited

/-- One alternative of a path. -/
structure LocationPath where
  /-- The path may begin at any element from the context element downwards. -/
  isDeep : Bool
  steps : List Step
  deriving DecidableEq, Repr, Inhabited

/-- The name test of the attribute step that a path ends with. -/
def LocationPath.attributeTest? (path : LocationPath) : Option NameTest :=
  match path.steps.getLast? with
  | some ⟨.attribute, test⟩ => some test
  | _ => none

/-- A path as it was written, and its alternatives. -/
structure IdentityPath where
  text : String
  alternatives : List LocationPath
  deriving DecidableEq, Repr, Inhabited

end SchemaAssessment

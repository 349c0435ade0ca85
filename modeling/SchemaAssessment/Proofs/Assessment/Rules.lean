/-
Under which rules something is found. Every check has a few rules of its own, so what is
found under another rule comes from somewhere else. The rules of a check are given as a
list, and that a rule is none of them is decided.
-/

import SchemaAssessment.Assessment.Diagnostic

namespace SchemaAssessment

namespace Rule

/-- The rules by which the stores of identity constraints tell about selected elements. -/
def ofStores : List Rule := [
  .duplicateUnique, .duplicateKey, .absentKeyValue, .uniqueNotEnoughValues, .keyNotEnoughValues,
  .keyRefNotEnoughValues, .fieldMultipleMatch, .unknownField, .keyMatchesNillable]

/-- The rules about references to keys and unique constraints. -/
def ofReferences : List Rule := [.keyNotFound, .keyRefOutOfScope]

/-- The rules of attributes. -/
def ofAttributes : List Rule := [
  .simpleTypeAttribute, .attributeNotAllowed, .attributeValue, .attributeFixed, .attributeUseFixed,
  .multipleWildcardIds, .wildcardIdWithDeclaredId, .requiredAttributeMissing]

/-- The rules of types that an instance chooses. -/
def ofChosenTypes : List Rule := [.invalidXsiType, .xsiTypeNotFound, .xsiTypeNotDerived]

/-- The rules of the claim to be nil. -/
def ofNilClaims : List Rule := [.notNillable, .nilWithFixed, .attributeValue]

/-- The rules of fixed values of elements. -/
def ofFixedValues : List Rule := [.fixedWithChildren, .fixedMixedMismatch, .fixedValueMismatch]

/-- The rules of what an element holds, the end of its children aside. -/
def ofContent : List Rule := [
  .simpleTypeChildren, .simpleTypeValue, .emptyContent, .simpleContentChildren, .elementOnlyText]

end Rule

/-- All findings are under some rules. -/
structure Under (rules : List Rule) (diagnostics : List Diagnostic) : Prop where
  told : ∀ diagnostic ∈ diagnostics, diagnostic.rule ∈ rules

namespace Under

variable {rules others : List Rule} {first second : List Diagnostic}

theorem nil (rules : List Rule) : Under rules [] :=
  ⟨fun _ member => absurd member List.not_mem_nil⟩

theorem one {rule : Rule} (listed : rule ∈ rules) (element : String) (arguments : List String) :
    Under rules [⟨rule, element, arguments⟩] := by
  refine ⟨fun diagnostic member => ?_⟩
  obtain rfl := List.mem_singleton.mp member
  exact listed

theorem append (left : Under rules first) (right : Under rules second) :
    Under rules (first ++ second) := by
  refine ⟨fun diagnostic member => ?_⟩
  exact (List.mem_append.mp member).elim (left.told diagnostic) (right.told diagnostic)

theorem mono (under : Under rules first) (listed : ∀ rule ∈ rules, rule ∈ others) :
    Under others first :=
  ⟨fun diagnostic member => listed _ (under.told diagnostic member)⟩

theorem cons {diagnostic : Diagnostic} (head : diagnostic.rule ∈ rules)
    (tail : Under rules second) : Under rules (diagnostic :: second) :=
  append (one head diagnostic.element diagnostic.arguments) tail

end Under

/-- What is found under a rule. -/
def underRule (rule : Rule) (diagnostics : List Diagnostic) : List Diagnostic :=
  diagnostics.filter fun diagnostic => diagnostic.rule == rule

theorem underRule_append (rule : Rule) (first second : List Diagnostic) :
    underRule rule (first ++ second) = underRule rule first ++ underRule rule second :=
  List.filter_append ..

theorem Under.underRule_eq_nil {rules : List Rule} {diagnostics : List Diagnostic} {rule : Rule}
    (under : Under rules diagnostics) (apart : rule ∉ rules) : underRule rule diagnostics = [] := by
  refine List.filter_eq_nil_iff.mpr fun diagnostic member same => apart ?_
  exact eq_of_beq same ▸ under.told diagnostic member

theorem Under.underRule_eq_self {rule : Rule} {diagnostics : List Diagnostic}
    (under : Under [rule] diagnostics) : underRule rule diagnostics = diagnostics := by
  refine List.filter_eq_self.mpr fun diagnostic member => beq_iff_eq.mpr ?_
  exact List.mem_singleton.mp (under.told diagnostic member)

end SchemaAssessment

/-
What a validator finds: the rule that is broken, the element at which that was found,
and the texts that belong to it.
-/

import SchemaAssessment.Json.Basic

namespace SchemaAssessment

/-- The rules that can be broken. -/
inductive Rule where
  | elementNotDeclared | abstractElement | notNillable | nilWithContent | nilWithFixed
  | invalidXsiType | xsiTypeNotFound | xsiTypeNotDerived | invalidDefaultForType
  | fixedWithChildren | fixedMixedMismatch | fixedValueMismatch
  | abstractType | simpleTypeAttribute | simpleTypeChildren | simpleTypeValue | emptyContent
  | simpleContentChildren | elementOnlyText | invalidChild | incompleteContent
  | strictWildcardUndeclared
  | attributeUseFixed | attributeNotAllowed | requiredAttributeMissing | multipleWildcardIds
  | wildcardIdWithDeclaredId | attributeValue | attributeFixed
  | duplicateId | unresolvedIdref | schemaLoad
  | duplicateUnique | duplicateKey | absentKeyValue | uniqueNotEnoughValues | keyNotEnoughValues
  | keyRefNotEnoughValues | fieldMultipleMatch | unknownField | keyMatchesNillable | keyNotFound
  | keyRefOutOfScope
  deriving DecidableEq, Repr, Inhabited

namespace Rule

/-- The code and the long name of a rule. -/
def codeAndName : Rule → String × String
  | .elementNotDeclared => ("cvc-elt.1", "ElementNotDeclared")
  | .abstractElement => ("cvc-elt.2", "AbstractElement")
  | .notNillable => ("cvc-elt.3.1", "NotNillable")
  | .nilWithContent => ("cvc-elt.3.2.1", "NilWithContent")
  | .nilWithFixed => ("cvc-elt.3.2.2", "NilWithFixed")
  | .invalidXsiType => ("cvc-elt.4.1", "InvalidXsiType")
  | .xsiTypeNotFound => ("cvc-elt.4.2", "XsiTypeNotFound")
  | .xsiTypeNotDerived => ("cvc-elt.4.3", "XsiTypeNotDerived")
  | .invalidDefaultForType => ("cvc-elt.5.1.1", "InvalidDefaultForType")
  | .fixedWithChildren => ("cvc-elt.5.2.2.1", "FixedWithChildren")
  | .fixedMixedMismatch => ("cvc-elt.5.2.2.2.1", "FixedMixedMismatch")
  | .fixedValueMismatch => ("cvc-elt.5.2.2.2.2", "FixedValueMismatch")
  | .abstractType => ("cvc-type.2", "AbstractType")
  | .simpleTypeAttribute => ("cvc-type.3.1.1", "SimpleTypeAttribute")
  | .simpleTypeChildren => ("cvc-type.3.1.2", "SimpleTypeChildren")
  | .simpleTypeValue => ("cvc-type.3.1.3", "SimpleTypeValue")
  | .emptyContent => ("cvc-complex-type.2.1", "EmptyContent")
  | .simpleContentChildren => ("cvc-complex-type.2.2", "SimpleContentChildren")
  | .elementOnlyText => ("cvc-complex-type.2.3", "ElementOnlyText")
  | .invalidChild => ("cvc-complex-type.2.4.a", "InvalidChild")
  | .incompleteContent => ("cvc-complex-type.2.4.b", "IncompleteContent")
  | .strictWildcardUndeclared => ("cvc-complex-type.2.4.c", "StrictWildcardUndeclared")
  | .attributeUseFixed => ("cvc-complex-type.3.1", "AttributeUseFixed")
  | .attributeNotAllowed => ("cvc-complex-type.3.2.2", "AttributeNotAllowed")
  | .requiredAttributeMissing => ("cvc-complex-type.4", "RequiredAttributeMissing")
  | .multipleWildcardIds => ("cvc-complex-type.5.1", "MultipleWildcardIds")
  | .wildcardIdWithDeclaredId => ("cvc-complex-type.5.2", "WildcardIdWithDeclaredId")
  | .attributeValue => ("cvc-attribute.3", "AttributeValue")
  | .attributeFixed => ("cvc-attribute.4", "AttributeFixed")
  | .duplicateId => ("cvc-id.2", "DuplicateId")
  | .unresolvedIdref => ("cvc-id.1", "UnresolvedIdref")
  | .schemaLoad => ("schema_reference.4", "SchemaLoad")
  | .duplicateUnique => ("DuplicateUnique", "DuplicateUnique")
  | .duplicateKey => ("DuplicateKey", "DuplicateKey")
  | .absentKeyValue => ("AbsentKeyValue", "AbsentKeyValue")
  | .uniqueNotEnoughValues => ("UniqueNotEnoughValues", "UniqueNotEnoughValues")
  | .keyNotEnoughValues => ("KeyNotEnoughValues", "KeyNotEnoughValues")
  | .keyRefNotEnoughValues => ("KeyRefNotEnoughValues", "KeyRefNotEnoughValues")
  | .fieldMultipleMatch => ("FieldMultipleMatch", "FieldMultipleMatch")
  | .unknownField => ("UnknownField", "UnknownField")
  | .keyMatchesNillable => ("KeyMatchesNillable", "KeyMatchesNillable")
  | .keyNotFound => ("KeyNotFound", "KeyNotFound")
  | .keyRefOutOfScope => ("KeyRefOutOfScope", "KeyRefOutOfScope")

/-- The code of a rule. -/
def code (rule : Rule) : String := rule.codeAndName.1

/-- The long name of a rule. -/
def name (rule : Rule) : String := rule.codeAndName.2

/-- All rules. -/
def all : List Rule := [
  .elementNotDeclared, .abstractElement, .notNillable, .nilWithContent, .nilWithFixed,
  .invalidXsiType, .xsiTypeNotFound, .xsiTypeNotDerived, .invalidDefaultForType,
  .fixedWithChildren, .fixedMixedMismatch, .fixedValueMismatch,
  .abstractType, .simpleTypeAttribute, .simpleTypeChildren, .simpleTypeValue, .emptyContent,
  .simpleContentChildren, .elementOnlyText, .invalidChild, .incompleteContent,
  .strictWildcardUndeclared,
  .attributeUseFixed, .attributeNotAllowed, .requiredAttributeMissing, .multipleWildcardIds,
  .wildcardIdWithDeclaredId, .attributeValue, .attributeFixed,
  .duplicateId, .unresolvedIdref, .schemaLoad,
  .duplicateUnique, .duplicateKey, .absentKeyValue, .uniqueNotEnoughValues, .keyNotEnoughValues,
  .keyRefNotEnoughValues, .fieldMultipleMatch, .unknownField, .keyMatchesNillable, .keyNotFound,
  .keyRefOutOfScope]

/-- The rule with a long name. -/
def ofName? (name : String) : Option Rule := all.find? fun rule => rule.name == name

/-- Every rule is found under its long name. -/
theorem ofName?_name (rule : Rule) : ofName? rule.name = some rule := by
  cases rule <;> decide

/-- The rule is one of identity constraints. Their codes are their names. -/
def isIdentity (rule : Rule) : Bool := rule.code == rule.name

end Rule

/-- A finding. -/
structure Diagnostic where
  rule : Rule
  element : String
  arguments : List String
  deriving DecidableEq, Repr, Inhabited

/-- A finding as text. -/
def Diagnostic.text (diagnostic : Diagnostic) : String :=
  diagnostic.rule.code ++ ": <" ++ diagnostic.element ++ ">" ++
    if diagnostic.arguments.isEmpty then ""
    else " [" ++ ", ".intercalate diagnostic.arguments ++ "]"

/-- A finding as a record, under the long name of its rule. -/
def Diagnostic.toJson (diagnostic : Diagnostic) : Json :=
  .object [("args", .array (diagnostic.arguments.map .string)), ("code", .string diagnostic.rule.name),
    ("element", .string diagnostic.element)]

end SchemaAssessment

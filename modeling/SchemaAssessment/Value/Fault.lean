/-
Why a text is not a value of a type, or a value is refused by a facet, and how a
message tells it.
-/

import SchemaAssessment.Name.Scope
import SchemaAssessment.Text.Quoted

namespace SchemaAssessment

/-- The four facets that bound a value. -/
inductive BoundKind where
  | minInclusive
  | maxInclusive
  | minExclusive
  | maxExclusive
  deriving DecidableEq, Repr, Inhabited

/-- The name of a bound. -/
def BoundKind.name : BoundKind → String
  | .minInclusive => "minInclusive"
  | .maxInclusive => "maxInclusive"
  | .minExclusive => "minExclusive"
  | .maxExclusive => "maxExclusive"

/-- Which facet refuses a value. -/
inductive FacetFault where
  | length (expected found : Nat)
  | minLength (least : Nat)
  | maxLength (most : Nat)
  | pattern (anchored : String)
  | enumeration (members : List String)
  | bound (kind : BoundKind) (text : String)
  | totalDigits (most : Nat)
  | fractionDigits (most : Nat)
  deriving DecidableEq, Repr, Inhabited

namespace FacetFault

/-- The name of the facet. -/
def facet : FacetFault → String
  | .length .. => "length"
  | .minLength _ => "minLength"
  | .maxLength _ => "maxLength"
  | .pattern _ => "pattern"
  | .enumeration _ => "enumeration"
  | .bound kind _ => kind.name
  | .totalDigits _ => "totalDigits"
  | .fractionDigits _ => "fractionDigits"

/-- What the facet asks for. -/
def reason : FacetFault → String
  | .length expected found => s!"length must be {expected}, got {found}"
  | .minLength least => s!"length must be at least {least}"
  | .maxLength most => s!"length must be at most {most}"
  | .pattern anchored => s!"does not match '{anchored}'"
  | .enumeration members => "must be one of " ++ Text.quoteList members
  | .bound _ text => "bound is " ++ text
  | .totalDigits most => s!"at most {most} digits"
  | .fractionDigits most => s!"at most {most} fraction digits"

end FacetFault

/-- Why a text is not a value. -/
inductive ValueFault where
  | lexical (text typeName : String)
  | outOfRange (text typeName : String)
  | facet (text : String) (fault : FacetFault)
  | unboundPrefix (prefixName : String)
  | noUnionMember (text : String)
  deriving DecidableEq, Repr, Inhabited

/-- The message of a fault. -/
def ValueFault.message : ValueFault → String
  | .lexical text typeName => s!"'{text}' is not a valid value for '{typeName}'"
  | .outOfRange text typeName => s!"'{text}' is out of range for '{typeName}'"
  | .facet text fault => s!"'{text}' violates facet '{fault.facet}': {fault.reason}"
  | .unboundPrefix prefixName => s!"prefix '{prefixName}' is not bound to a namespace"
  | .noUnionMember text => s!"'{text}' does not match any member of the union"

end SchemaAssessment

/-
Facets: what a type asks of its values beyond its datatype. Lengths, patterns and
digits speak of the value as it is; the members of an enumeration and the bounds are
texts that are read as values of the same type first. The facets are checked one
after the other and the first that refuses a value is told.
-/

import SchemaAssessment.Regex.Reader
import SchemaAssessment.Value.Basic
import SchemaAssessment.Value.Fault
import SchemaAssessment.Value.WhiteSpace

namespace SchemaAssessment

/-- The facets of a type. -/
structure Facets where
  whiteSpace : Option WhiteSpace := none
  length : Option Nat := none
  minLength : Option Nat := none
  maxLength : Option Nat := none
  patterns : List String := []
  enumeration : List String := []
  minInclusive : Option String := none
  maxInclusive : Option String := none
  minExclusive : Option String := none
  maxExclusive : Option String := none
  totalDigits : Option Nat := none
  fractionDigits : Option Nat := none
  deriving DecidableEq, Repr, Inhabited

namespace Facets

/-- No facet is set. -/
def isEmpty (facets : Facets) : Bool := facets == {}

/-! ### Patterns -/

/-- The class that an escape for characters of names stands for. -/
def nameEscapes : List (Char × String) := [
  ('i', "[_:A-Za-z]"), ('I', "[^_:A-Za-z]"),
  ('c', "[\\-._:A-Za-z0-9]"), ('C', "[^\\-._:A-Za-z0-9]")]

/-- A pattern in which the escapes for characters of names are written out. A backslash at the
end stands for itself. -/
def expandEscapes : List Char → List Char
  | [] => []
  | ['\\'] => ['\\', '\\']
  | '\\' :: c :: rest =>
    match nameEscapes.lookup c with
    | some characters => characters.toList ++ expandEscapes rest
    | none => '\\' :: c :: expandEscapes rest
  | c :: rest => c :: expandEscapes rest

/-- A pattern bound to both ends of the text. -/
def anchored (pattern : String) : String :=
  "^(?:" ++ String.ofList (expandEscapes pattern.toList) ++ ")$"

/-- The pattern facet refuses a text. A pattern that cannot be read, or grows too large, refuses
none. -/
def refuses (text pattern : String) : Bool :=
  match Regex.Pattern.read? (anchored pattern) with
  | some regex => !regex.occursIn text && regex.isSmall
  | none => false

/-! ### Digits -/

/-- The number does not need more digits than allowed. -/
def checkDigits (facets : Facets) (value : Decimal) : Except FacetFault Unit := do
  if let some most := facets.totalDigits then
    if most < value.totalDigits then throw (.totalDigits most)
  if let some most := facets.fractionDigits then
    if most < value.fractionDigits then throw (.fractionDigits most)

/-! ### Lengths -/

/-- The length is neither too small nor too great. -/
def checkLength (facets : Facets) (length : Nat) : Except FacetFault Unit := do
  if let some expected := facets.length then
    if length != expected then throw (.length expected length)
  if let some least := facets.minLength then
    if length < least then throw (.minLength least)
  if let some most := facets.maxLength then
    if most < length then throw (.maxLength most)

/-! ### Bounds -/

/-- The orders of a value and a bound with which the bound is kept. -/
def keeps : BoundKind → Ordering → Bool
  | .minInclusive, order => order != .lt
  | .maxInclusive, order => order != .gt
  | .minExclusive, order => order == .gt
  | .maxExclusive, order => order == .lt

/-- The bounds that are set, in the order in which they are checked. -/
def bounds (facets : Facets) : List (BoundKind × String) :=
  [(.minInclusive, facets.minInclusive), (.maxInclusive, facets.maxInclusive),
    (.minExclusive, facets.minExclusive), (.maxExclusive, facets.maxExclusive)].filterMap
    fun (kind, bound) => bound.map fun bound => (kind, bound)

/-- The value keeps a bound, which has to be a value of the type itself. -/
def checkBound (text : String) (value : Value) (parse : String → Except ValueFault Value)
    (bound : BoundKind × String) : Except ValueFault Unit := do
  let limit ← parse bound.2
  if (value.compare limit).any (keeps bound.1) then return ()
  else throw (.facet text (.bound bound.1 bound.2))

/-! ### All facets -/

/-- A fault of a facet as a fault of the value with the given text. -/
def blame (text : String) (check : Except FacetFault Unit) : Except ValueFault Unit :=
  match check with
  | .ok () => .ok ()
  | .error fault => .error (.facet text fault)

/-- The text stands for a member of the enumeration. -/
def isMember (facets : Facets) (value : Value) (parse : String → Except ValueFault Value) : Bool :=
  facets.enumeration.any fun member =>
    match parse member with
    | .ok allowed => allowed.same value
    | .error _ => false

/-- Checks a value that a text was read as. The texts of bounds and of the members of the
enumeration are read by `parse`. -/
def check (facets : Facets) (text : String) (value : Value)
    (parse : String → Except ValueFault Value) : Except ValueFault Unit := do
  if let some length := value.length then blame text (facets.checkLength length)
  if let some pattern := facets.patterns.find? (refuses text) then
    throw (.facet text (.pattern (anchored pattern)))
  if !facets.enumeration.isEmpty && !facets.isMember value parse then
    throw (.facet text (.enumeration facets.enumeration))
  facets.bounds.forM (checkBound text value parse)
  if let .decimal number := value then blame text (facets.checkDigits number)

end Facets

end SchemaAssessment

/-
The built-in atomic datatypes: their names, the type that each restricts, and what
each does with white space.
-/

import SchemaAssessment.Name.Expanded
import SchemaAssessment.Value.WhiteSpace

namespace SchemaAssessment

/-- A built-in atomic datatype. -/
inductive Datatype where
  | anySimpleType | string | normalizedString | token | language | name | ncName | id | idRef
  | entity | nmToken | boolean | decimal | integer | nonPositiveInteger | negativeInteger | long
  | int | short | byte | nonNegativeInteger | unsignedLong | unsignedInt | unsignedShort
  | unsignedByte | positiveInteger | float | double | duration | dateTime | time | date
  | gYearMonth | gYear | gMonthDay | gDay | gMonth | hexBinary | base64Binary | anyURI | qName
  deriving DecidableEq, Repr, Inhabited

namespace Datatype

/-- All datatypes, in the order in which they are listed. -/
def all : List Datatype := [
  .anySimpleType, .string, .normalizedString, .token, .language, .name, .ncName, .id, .idRef,
  .entity, .nmToken, .boolean, .decimal, .integer, .nonPositiveInteger, .negativeInteger, .long,
  .int, .short, .byte, .nonNegativeInteger, .unsignedLong, .unsignedInt, .unsignedShort,
  .unsignedByte, .positiveInteger, .float, .double, .duration, .dateTime, .time, .date,
  .gYearMonth, .gYear, .gMonthDay, .gDay, .gMonth, .hexBinary, .base64Binary, .anyURI, .qName]

/-- The local name of a datatype in the namespace of schemas. -/
def localName : Datatype → String
  | .anySimpleType => "anySimpleType"
  | .string => "string"
  | .normalizedString => "normalizedString"
  | .token => "token"
  | .language => "language"
  | .name => "Name"
  | .ncName => "NCName"
  | .id => "ID"
  | .idRef => "IDREF"
  | .entity => "ENTITY"
  | .nmToken => "NMTOKEN"
  | .boolean => "boolean"
  | .decimal => "decimal"
  | .integer => "integer"
  | .nonPositiveInteger => "nonPositiveInteger"
  | .negativeInteger => "negativeInteger"
  | .long => "long"
  | .int => "int"
  | .short => "short"
  | .byte => "byte"
  | .nonNegativeInteger => "nonNegativeInteger"
  | .unsignedLong => "unsignedLong"
  | .unsignedInt => "unsignedInt"
  | .unsignedShort => "unsignedShort"
  | .unsignedByte => "unsignedByte"
  | .positiveInteger => "positiveInteger"
  | .float => "float"
  | .double => "double"
  | .duration => "duration"
  | .dateTime => "dateTime"
  | .time => "time"
  | .date => "date"
  | .gYearMonth => "gYearMonth"
  | .gYear => "gYear"
  | .gMonthDay => "gMonthDay"
  | .gDay => "gDay"
  | .gMonth => "gMonth"
  | .hexBinary => "hexBinary"
  | .base64Binary => "base64Binary"
  | .anyURI => "anyURI"
  | .qName => "QName"

/-- The datatype with a local name. -/
def ofLocalName? (localName : String) : Option Datatype :=
  all.find? fun type => type.localName == localName

/-- The name of a datatype. -/
def expandedName (type : Datatype) : ExpandedName := .ofSchema type.localName

/-- The name of a datatype with the customary prefix. -/
def shownName (type : Datatype) : String := "xs:" ++ type.localName

/-! ### Derivation -/

/-- The datatype that a datatype restricts. -/
def base : Datatype → Option Datatype
  | .anySimpleType => none
  | .normalizedString => some .string
  | .token => some .normalizedString
  | .language | .name | .nmToken => some .token
  | .ncName => some .name
  | .id | .idRef | .entity => some .ncName
  | .integer => some .decimal
  | .nonPositiveInteger | .long | .nonNegativeInteger => some .integer
  | .negativeInteger => some .nonPositiveInteger
  | .int => some .long
  | .short => some .int
  | .byte => some .short
  | .unsignedLong | .positiveInteger => some .nonNegativeInteger
  | .unsignedInt => some .unsignedLong
  | .unsignedShort => some .unsignedInt
  | .unsignedByte => some .unsignedShort
  | _ => some .anySimpleType

/-- The type is reached from the other by at most so many steps to the base. -/
def isReached (other : Datatype) : Nat → Datatype → Bool
  | 0, type => type == other
  | steps + 1, type =>
    type == other || match type.base with
      | some base => isReached other steps base
      | none => false

/-- The longest way to `anySimpleType` has this many steps. -/
def longestChain : Nat := 7

/-- The datatype is the other or derived from it. -/
def isDerivedFrom (type other : Datatype) : Bool := isReached other longestChain type

/-- Every datatype is derived from itself. -/
@[simp] theorem isDerivedFrom_self (type : Datatype) : type.isDerivedFrom type = true := by
  simp [isDerivedFrom, longestChain, isReached]

/-- Every datatype is derived from `anySimpleType`. -/
theorem isDerivedFrom_anySimpleType (type : Datatype) :
    type.isDerivedFrom .anySimpleType = true := by
  cases type <;> decide

/-- The datatype is one of numbers. -/
def isNumeric (type : Datatype) : Bool :=
  type.isDerivedFrom .decimal || type == .float || type == .double

/-! ### White space -/

/-- What a datatype does with white space. -/
def whiteSpace : Datatype → WhiteSpace
  | .string | .anySimpleType => .preserve
  | .normalizedString => .replace
  | _ => .collapse

end Datatype

end SchemaAssessment

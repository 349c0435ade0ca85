/-
Typed values, what it means that two of them are the same, and how they are ordered
and shown. Values of different kinds are never the same; durations and recurring
dates are told apart by their written forms alone. Only numbers, moments and texts
have an order.
-/

import SchemaAssessment.Name.Expanded
import SchemaAssessment.Number.Bytes
import SchemaAssessment.Number.Decimal
import SchemaAssessment.Number.Shortest
import SchemaAssessment.Time.Moment

namespace SchemaAssessment

/-- The kinds of recurring dates and of dates without a day. -/
inductive Recurrence where
  | yearMonth
  | year
  | monthDay
  | day
  | month
  deriving DecidableEq, Repr, Inhabited

/-- The name of a kind. -/
def Recurrence.name : Recurrence → String
  | .yearMonth => "gYearMonth"
  | .year => "gYear"
  | .monthDay => "gMonthDay"
  | .day => "gDay"
  | .month => "gMonth"

/-- A value of a datatype, or a list of values. -/
inductive Value where
  | string (text : String)
  | boolean (value : Bool)
  | decimal (value : Decimal)
  | float (value : Binary)
  | double (value : Binary)
  | moment (value : Moment)
  | duration (text : String)
  | recurring (kind : Recurrence) (text : String)
  | hexBinary (bytes : List UInt8)
  | base64Binary (bytes : List UInt8)
  | uri (text : String)
  | name (value : ExpandedName)
  | list (items : List Value)
  deriving Inhabited, Repr

namespace Value

/-- The name of the primitive datatype that a value belongs to. -/
def kindName : Value → String
  | .string _ => "string"
  | .boolean _ => "boolean"
  | .decimal _ => "decimal"
  | .float _ => "float"
  | .double _ => "double"
  | .moment value => value.kind.name
  | .duration _ => "duration"
  | .recurring kind _ => kind.name
  | .hexBinary _ => "hexBinary"
  | .base64Binary _ => "base64Binary"
  | .uri _ => "anyURI"
  | .name _ => "QName"
  | .list _ => "list"

/-! ### Sameness -/

mutual

/-- Two values are the same. -/
def same : Value → Value → Bool
  | .string left, .string right => left == right
  | .boolean left, .boolean right => left == right
  | .decimal left, .decimal right => left.same right
  | .float left, .float right => left.same right
  | .double left, .double right => left.same right
  | .moment left, .moment right => left.compare right == some .eq
  | .duration left, .duration right => left == right
  | .recurring leftKind left, .recurring rightKind right => leftKind == rightKind && left == right
  | .hexBinary left, .hexBinary right => left == right
  | .base64Binary left, .base64Binary right => left == right
  | .uri left, .uri right => left == right
  | .name left, .name right => left == right
  | .list left, .list right => sameItems left right
  | _, _ => false

/-- Two lists of values are the same item by item. -/
def sameItems : List Value → List Value → Bool
  | [], [] => true
  | left :: lefts, right :: rights => same left right && sameItems lefts rights
  | _, _ => false

end

/-! ### Order -/

/-- The order of two values, where they have one. -/
def compare : Value → Value → Option Ordering
  | .decimal left, .decimal right => some (left.compare right)
  | .float left, .float right => left.compare right
  | .double left, .double right => left.compare right
  | .moment left, .moment right => left.compare right
  | .string left, .string right => some (Ord.compare left right)
  | _, _ => none

/-- Comparing two values breaks off: those are moments of which one cannot be brought to universal
time. -/
def breaksOff : Value → Value → Bool
  | .moment left, .moment right => !(left.order right).isOk
  | _, _ => false

/-! ### Length and text -/

/-- The length that length facets speak of: characters of a text, bytes, or items. -/
def length : Value → Option Nat
  | .string text => some text.length
  | .uri text => some text.length
  | .hexBinary bytes => some bytes.length
  | .base64Binary bytes => some bytes.length
  | .list items => some items.length
  | _ => none

mutual

/-- A value as text. Items of a list are separated by blanks. -/
def text : Value → String
  | .string text => text
  | .boolean value => if value then "true" else "false"
  | .decimal value => value.text
  | .float value => value.text
  | .double value => value.text
  | .moment value => value.text
  | .duration text => text
  | .recurring _ text => text
  | .hexBinary bytes => String.ofList (Bytes.toHex bytes)
  | .base64Binary bytes => String.ofList (Bytes.toBase64 bytes)
  | .uri text => text
  | .name value => value.text
  | .list items => " ".intercalate (textsOf items)

/-- The texts of some values. -/
def textsOf : List Value → List String
  | [] => []
  | item :: rest => text item :: textsOf rest

end

/-- The texts of the items of a list; any other value is its own item. -/
def itemTexts : Value → List String
  | .list items => textsOf items
  | value => [value.text]

end Value

end SchemaAssessment

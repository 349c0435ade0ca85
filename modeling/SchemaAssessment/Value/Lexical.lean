/-
From texts to values. Each datatype has the written forms it accepts; a form that is
accepted but denotes a number beyond the range of the type is told apart from a
form that is not accepted. The text is taken as it is: white space was dealt with
before.
-/

import SchemaAssessment.Name.Lexical
import SchemaAssessment.Number.Digits
import SchemaAssessment.Time.Lexical
import SchemaAssessment.Url.Reader
import SchemaAssessment.Value.Basic
import SchemaAssessment.Value.Datatype
import SchemaAssessment.Value.Fault

namespace SchemaAssessment.Datatype

/-! ### Texts -/

/-- A line break or a tab. -/
def isBreak (c : Char) : Bool := c == '\r' || c == '\n' || c == '\t'

/-- No line breaks or tabs. -/
def isNormalizedString (text : String) : Bool := !text.toList.any isBreak

/-- No line breaks or tabs, no space at an end and no two spaces together. -/
def isToken (text : String) : Bool :=
  let chars := text.toList
  isNormalizedString text && chars.head? != some ' ' && chars.getLast? != some ' ' &&
    !Text.occursIn [' ', ' '] chars

/-- One to eight characters of a class. -/
def isShortRun (isMember : Char → Bool) (chars : List Char) : Bool :=
  1 ≤ chars.length && chars.length ≤ 8 && chars.all isMember

/-- A language: parts of one to eight characters with hyphens between them, the first of letters
and the others of letters and digits. -/
def isLanguage (text : String) : Bool :=
  match text.toList.splitOnP (· == '-') with
  | first :: others => isShortRun Char.isAlpha first && others.all (isShortRun Char.isAlphanum)
  | [] => false

/-! ### Numbers -/

/-- An optional sign and digits. -/
def isIntegerForm (text : String) : Bool :=
  let (_, digits) := Decimal.splitSign text.toList
  !digits.isEmpty && digits.all Text.isDecimalDigit

/-- The decimal number of a numeral. -/
def decimal? (typeName text : String) : Except ValueFault Decimal :=
  match Decimal.numeral? text.toList with
  | none => .error (.lexical text typeName)
  | some numeral =>
    match Decimal.ofNumeral? numeral with
    | some value => .ok value
    | none => .error (.outOfRange text typeName)

/-- The least and the greatest number of a type of whole numbers. -/
def integerBounds : Datatype → Option Int × Option Int
  | .nonPositiveInteger => (none, some 0)
  | .negativeInteger => (none, some (-1))
  | .long => (some (-twoTo 63), some (twoTo 63 - 1))
  | .int => (some (-twoTo 31), some (twoTo 31 - 1))
  | .short => (some (-twoTo 15), some (twoTo 15 - 1))
  | .byte => (some (-twoTo 7), some (twoTo 7 - 1))
  | .nonNegativeInteger => (some 0, none)
  | .unsignedLong => (some 0, some (twoTo 64 - 1))
  | .unsignedInt => (some 0, some (twoTo 32 - 1))
  | .unsignedShort => (some 0, some (twoTo 16 - 1))
  | .unsignedByte => (some 0, some (twoTo 8 - 1))
  | .positiveInteger => (some 1, none)
  | _ => (none, none)

/-- The number lies between the bounds of a type. -/
def isWithinBounds (type : Datatype) (value : Decimal) : Bool :=
  let (least, greatest) := type.integerBounds
  least.all (fun least => value.compare (.ofInt least) != .lt) &&
    greatest.all fun greatest => value.compare (.ofInt greatest) != .gt

/-- The exponent after its letter: an optional sign and digits. -/
def exponent? (chars : List Char) : Option Int := do
  let (negative, digits) := Decimal.splitSign chars
  let magnitude ← Time.number? digits
  return if negative then -(magnitude : Int) else magnitude

/-- The binary number of a numeral with an optional exponent. -/
def scientific? (chars : List Char) : Option Binary := do
  let (negative, unsigned) := Decimal.splitSign chars
  let (whole, fraction, rest) ← Decimal.splitUnsigned unsigned
  let digits ← Time.number? (whole ++ fraction)
  let exponent ← match rest with
    | [] => some 0
    | mark :: rest => if mark == 'e' || mark == 'E' then exponent? rest else none
  return Binary.ofScientific negative digits (exponent - fraction.length)

/-- The binary number of a text; infinities and what is not a number have names. -/
def binary? (text : String) : Option Binary :=
  match text with
  | "INF" => some (.infinite false)
  | "-INF" => some (.infinite true)
  | "NaN" => some .nan
  | _ => scientific? text.toList

/-! ### Names -/

/-- The name that a text means where the given prefixes are bound. -/
def qualifiedName? (scopes : NamespaceScopes) (text : String) : Except ValueFault Value :=
  if !Name.isQName text then .error (.lexical text "QName")
  else match scopes.resolve text with
    | .ok meaning => .ok (.name meaning)
    | .error unbound => .error (.unboundPrefix unbound.prefixName)

/-! ### Every datatype -/

/-- The value, if the text has the form that the type accepts. -/
def accept (type : Datatype) (text : String) (value : Option Value) : Except ValueFault Value :=
  match value with
  | some value => .ok value
  | none => .error (.lexical text type.localName)

/-- A value that holds the text itself, if the text has the right form. -/
def acceptIf (type : Datatype) (text : String) (form : Bool) (value : String → Value) :
    Except ValueFault Value :=
  type.accept text (if form then some (value text) else none)

/-- The value of a datatype that a text stands for. -/
def parse (type : Datatype) (scopes : NamespaceScopes) (text : String) : Except ValueFault Value :=
  let chars := text.toList
  match type with
  | .anySimpleType | .string => .ok (.string text)
  | .normalizedString => type.acceptIf text (isNormalizedString text) .string
  | .token => type.acceptIf text (isToken text) .string
  | .language => type.acceptIf text (isLanguage text) .string
  | .name => type.acceptIf text (Name.isName text) .string
  | .ncName | .id | .idRef | .entity => type.acceptIf text (Name.isNCName text) .string
  | .nmToken => type.acceptIf text (Name.isNmtoken text) .string
  | .boolean => type.accept text <|
    if text == "true" || text == "1" then some (.boolean true)
    else if text == "false" || text == "0" then some (.boolean false) else none
  | .decimal => (decimal? type.localName text).map .decimal
  | .integer | .nonPositiveInteger | .negativeInteger | .long | .int | .short | .byte
  | .nonNegativeInteger | .unsignedLong | .unsignedInt | .unsignedShort | .unsignedByte
  | .positiveInteger =>
    if !isIntegerForm text then .error (.lexical text type.localName)
    else do
      let value ← decimal? type.localName text
      if type.isWithinBounds value then .ok (.decimal value)
      else .error (.outOfRange text type.localName)
  | .float => type.accept text ((binary? text).map fun value => .float value.toSingle)
  | .double => type.accept text ((binary? text).map .double)
  | .duration => type.acceptIf text (Time.isDuration chars) .duration
  | .dateTime => type.accept text ((Time.moment? .dateTime chars).map .moment)
  | .date => type.accept text ((Time.moment? .date chars).map .moment)
  | .time => type.accept text ((Time.moment? .time chars).map .moment)
  | .gYearMonth => type.acceptIf text (Time.isYearMonth chars) (.recurring .yearMonth)
  | .gYear => type.acceptIf text (Time.isYear chars) (.recurring .year)
  | .gMonthDay => type.acceptIf text (Time.isMonthDay chars) (.recurring .monthDay)
  | .gDay => type.acceptIf text (Time.isDayOnly chars) (.recurring .day)
  | .gMonth => type.acceptIf text (Time.isMonthOnly chars) (.recurring .month)
  | .hexBinary => type.accept text ((Bytes.ofHex? chars).map .hexBinary)
  | .base64Binary => type.accept text <|
    (Bytes.ofBase64? (chars.filter fun c => !Text.isBlank c)).map .base64Binary
  | .anyURI => type.acceptIf text (isNormalizedString text && Url.isReference text) .uri
  | .qName => qualifiedName? scopes text

/-- Reading a text breaks off: it is that of a moment whose numbers leave their range. -/
def breaksOff (type : Datatype) (text : String) : Bool :=
  match type with
  | .dateTime => Time.breaksOff .dateTime text.toList
  | .date => Time.breaksOff .date text.toList
  | .time => Time.breaksOff .time text.toList
  | _ => false

end SchemaAssessment.Datatype

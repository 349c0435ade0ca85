/-
Reading JSON text. The reader takes the grammar of JSON to the letter: four blank
characters, no leading zeros, no bare control characters in strings. A surrogate
escape without its partner and an array or object inside 127 open brackets are no
fault of the text; they make the value around them unreadable. The reader works on
the list of the remaining characters and counts open brackets down, so each nested
value is read with one bracket less to spend. Where none is left, values are passed
over with the open brackets on a stack.
-/

import SchemaAssessment.Json.Basic
import SchemaAssessment.Number.Digits
import SchemaAssessment.Text.Digit

namespace SchemaAssessment.Json

/-- What can be wrong with JSON, as text or as the form of a component. -/
inductive Fault where
  | unexpectedEnd
  | unexpected (found : Char)
  | trailing
  | badEscape
  | controlCharacter
  | badNumber
  | expected (what : String)
  | missing (field : String)
  | duplicate (field : String)
  | unknown (variant : String)
  | outOfRange
  deriving DecidableEq, Repr, Inhabited

/-- The words for a fault. -/
def Fault.message : Fault → String
  | .unexpectedEnd => "text ends inside a value"
  | .unexpected found => "unexpected character " ++ String.singleton found
  | .trailing => "text after the value"
  | .badEscape => "invalid escape"
  | .controlCharacter => "control character in a string"
  | .badNumber => "invalid number"
  | .expected what => "expected " ++ what
  | .missing field => "missing field " ++ field
  | .duplicate field => "duplicate field " ++ field
  | .unknown variant => "unknown variant " ++ variant
  | .outOfRange => "number out of range"

/-- The greatest number of open brackets around the parts of a readable value. -/
def maximalDepth : Nat := 127

/-- The result of reading the front of the characters: a value and what follows it. -/
abbrev Parsed (α : Type) := Except Fault (α × List Char)

/-- The blanks that JSON allows between tokens. -/
def skipBlanks (chars : List Char) : List Char :=
  chars.dropWhile fun c => c == ' ' || c == '\n' || c == '\t' || c == '\r'

/-! ### Strings -/

/-- The value of four hexadecimal digits. -/
def fourHexValue? (a b c d : Char) : Option Nat :=
  Digits.number? 16 [a, b, c, d]

/-- The character that stands for a backslash followed by a letter. -/
def shortEscape? : Char → Option Char
  | '"' => some '"'
  | '\\' => some '\\'
  | '/' => some '/'
  | 'b' => some (Char.ofNat 8)
  | 'f' => some (Char.ofNat 12)
  | 'n' => some '\n'
  | 'r' => some '\r'
  | 't' => some '\t'
  | _ => none

/-- Half of a surrogate pair. -/
def isSurrogate (unit : Nat) : Bool := 0xD800 ≤ unit && unit ≤ 0xDFFF

/-- The character that a surrogate pair stands for. -/
def pairedCharacter? (high low : Nat) : Option Char :=
  if 0xD800 ≤ high && high ≤ 0xDBFF && 0xDC00 ≤ low && low ≤ 0xDFFF then
    some (Char.ofNat (0x10000 + (high - 0xD800) * 0x400 + (low - 0xDC00)))
  else none

/-- The text read so far, latest character first, and the half of a surrogate pair that was read
last, if its partner is awaited. There is no text once a half was left alone. -/
structure StringState where
  text : Option (List Char) := some []
  half : Option Nat := none
  deriving Inhabited

namespace StringState

/-- The text, given that no partner follows. -/
def settled (state : StringState) : Option (List Char) :=
  if state.half.isSome then none else state.text

/-- Adds a character. -/
def add (state : StringState) (c : Char) : StringState := ⟨state.settled.map (c :: ·), none⟩

/-- Adds a unit of sixteen bits. -/
def addUnit (state : StringState) (unit : Nat) : StringState :=
  match state.half.bind (pairedCharacter? · unit) with
  | some c => ⟨state.text.map (c :: ·), none⟩
  | none =>
    if isSurrogate unit then ⟨state.settled, some unit⟩ else state.add (Char.ofNat unit)

end StringState

/-- The text of a string up to its closing quote, which is dropped. -/
def readStringBody (state : StringState) : List Char → Parsed (Option String)
  | [] => .error .unexpectedEnd
  | '"' :: rest => .ok (state.settled.map fun chars => String.ofList chars.reverse, rest)
  | '\\' :: 'u' :: a :: b :: c :: d :: rest =>
    match fourHexValue? a b c d with
    | none => .error .badEscape
    | some unit => readStringBody (state.addUnit unit) rest
  | '\\' :: letter :: rest =>
    match shortEscape? letter with
    | none => .error .badEscape
    | some c => readStringBody (state.add c) rest
  | c :: rest =>
    if c == '\\' then .error .unexpectedEnd
    else if c.toNat < 32 then .error .controlCharacter
    else readStringBody (state.add c) rest

/-- A string after its opening quote. -/
def readString (chars : List Char) : Parsed (Option String) := readStringBody {} chars

/-! ### Numbers -/

/-- A number: digits are whole unless a fraction, an exponent or the sign of a zero makes the
literal a fraction. -/
def readNumber (chars : List Char) : Parsed Json :=
  let (sign, unsigned) := match chars with
    | '-' :: rest => (['-'], rest)
    | _ => ([], chars)
  let digits := unsigned.takeWhile Text.isAsciiDigit
  let afterDigits := unsigned.dropWhile Text.isAsciiDigit
  let leadingZero := match digits with
    | '0' :: _ :: _ => true
    | _ => false
  if digits.isEmpty || leadingZero then .error .badNumber
  else
    let fraction : Option (List Char × List Char) := match afterDigits with
      | '.' :: rest =>
        let digits := rest.takeWhile Text.isAsciiDigit
        if digits.isEmpty then none else some ('.' :: digits, rest.dropWhile Text.isAsciiDigit)
      | _ => some ([], afterDigits)
    match fraction with
    | none => .error .badNumber
    | some (fraction, afterFraction) =>
      let exponent : Option (List Char × List Char) := match afterFraction with
        | mark :: rest =>
          if mark == 'e' || mark == 'E' then
            let (sign, unsigned) := match rest with
              | '+' :: more => (['+'], more)
              | '-' :: more => (['-'], more)
              | _ => ([], rest)
            let digits := unsigned.takeWhile Text.isAsciiDigit
            if digits.isEmpty then none
            else some (mark :: sign ++ digits, unsigned.dropWhile Text.isAsciiDigit)
          else some ([], afterFraction)
        | [] => some ([], [])
      match exponent with
      | none => .error .badNumber
      | some (exponent, rest) =>
        let magnitude := (Digits.number? 10 digits).getD 0
        let isWhole := fraction.isEmpty && exponent.isEmpty && !(!sign.isEmpty && magnitude == 0)
        if isWhole then
          .ok (.whole (if sign.isEmpty then (magnitude : Int) else -(magnitude : Int)), rest)
        else .ok (.literal (String.ofList (sign ++ digits ++ fraction ++ exponent)), rest)

/-! ### Values -/

/-- A keyword and the value that it stands for. -/
def readKeyword (keyword : String) (value : Json) (chars : List Char) : Parsed Json :=
  if keyword.toList.isPrefixOf chars then .ok (value, chars.drop keyword.length)
  else .error .unexpectedEnd

/-- A value that is no array or object. -/
def readAtom : List Char → Parsed Json
  | [] => .error .unexpectedEnd
  | '"' :: rest => (readString rest).map fun (text, rest) =>
    (match text with
      | some text => .string text
      | none => .unreadable, rest)
  | c :: rest =>
    if c == 't' then readKeyword "true" (.bool true) (c :: rest)
    else if c == 'f' then readKeyword "false" (.bool false) (c :: rest)
    else if c == 'n' then readKeyword "null" .null (c :: rest)
    else if c == '-' || Text.isAsciiDigit c then readNumber (c :: rest)
    else .error (.unexpected c)

/-- The key of a member and the colon after it. -/
def readKey (chars : List Char) : Parsed (Option String) :=
  match skipBlanks chars with
  | '"' :: rest =>
    match readString rest with
    | .error fault => .error fault
    | .ok (key, rest) =>
      match skipBlanks rest with
      | ':' :: rest => .ok (key, rest)
      | c :: _ => .error (.unexpected c)
      | [] => .error .unexpectedEnd
  | c :: _ => .error (.unexpected c)
  | [] => .error .unexpectedEnd

/-- The bracket that closes an array or object, by the bracket that opens it. -/
def closing? (opening : Char) : Option Char :=
  if opening == '[' then some ']'
  else if opening == Char.ofNat 0x7B then some (Char.ofNat 0x7D)
  else none

/-- What follows the arrays and objects that are open, given by their closing brackets, the
innermost first. The innermost one was just opened, or one of its values was passed over last. The
bound counts values and brackets. -/
def skipNested : Nat → List Char → Bool → List Char → Except Fault (List Char)
  | _, [], _, chars => .ok chars
  | 0, _ :: _, _, _ => .error .unexpectedEnd
  | bound + 1, closing :: outer, justOpened, chars =>
    match skipBlanks chars with
    | [] => .error .unexpectedEnd
    | c :: rest =>
      if c == closing then skipNested bound outer false rest
      else if !justOpened && c != ',' then .error (.unexpected c)
      else
        let member := if justOpened then c :: rest else rest
        let value := if closing == ']' then .ok member else (readKey member).map (·.2)
        match value.map skipBlanks with
        | .error fault => .error fault
        | .ok [] => .error .unexpectedEnd
        | .ok (d :: rest) =>
          match closing? d with
          | some inner => skipNested bound (inner :: closing :: outer) true rest
          | none =>
            match readAtom (d :: rest) with
            | .error fault => .error fault
            | .ok (_, rest) => skipNested bound (closing :: outer) false rest

mutual

/-- The value at the front of the characters. The first number counts the brackets that may
still be opened, the second one bounds the characters left to read. -/
def readValue (brackets bound : Nat) (chars : List Char) : Parsed Json :=
  match bound with
  | 0 => .error .unexpectedEnd
  | bound + 1 =>
    match skipBlanks chars with
    | [] => .error .unexpectedEnd
    | c :: rest =>
      match closing? c, brackets with
      | none, _ => readAtom (c :: rest)
      | some closing, 0 =>
        (skipNested bound [closing] true rest).map fun rest => (.unreadable, rest)
      | some closing, brackets + 1 =>
        match skipBlanks rest with
        | [] => .error .unexpectedEnd
        | d :: more =>
          if closing == ']' then
            if d == closing then .ok (.array [], more)
            else (readItems brackets bound [] (d :: more)).map fun (items, rest) =>
              (.array items, rest)
          else if d == closing then .ok (.object [], more)
          else (readMembers brackets bound (some []) (d :: more)).map fun (members, rest) =>
            (match members with
              | some members => .object members
              | none => .unreadable, rest)

/-- The items of an array up to its closing bracket. -/
def readItems (brackets bound : Nat) (accumulated : List Json) (chars : List Char) :
    Parsed (List Json) :=
  match bound with
  | 0 => .error .unexpectedEnd
  | bound + 1 =>
    match readValue brackets bound chars with
    | .error fault => .error fault
    | .ok (item, rest) =>
      match skipBlanks rest with
      | ',' :: rest => readItems brackets bound (item :: accumulated) rest
      | ']' :: rest => .ok ((item :: accumulated).reverse, rest)
      | c :: _ => .error (.unexpected c)
      | [] => .error .unexpectedEnd

/-- The members of an object up to its closing bracket, if all their keys can be read. -/
def readMembers (brackets bound : Nat) (accumulated : Option (List (String × Json)))
    (chars : List Char) : Parsed (Option (List (String × Json))) :=
  match bound with
  | 0 => .error .unexpectedEnd
  | bound + 1 =>
    match readKey chars with
    | .error fault => .error fault
    | .ok (key, rest) =>
      match readValue brackets bound rest with
      | .error fault => .error fault
      | .ok (value, rest) =>
        let accumulated := match accumulated, key with
          | some members, some key => some ((key, value) :: members)
          | _, _ => none
        match skipBlanks rest with
        | ',' :: rest => readMembers brackets bound accumulated rest
        | c :: rest =>
          if c == Char.ofNat 0x7D then .ok (accumulated.map List.reverse, rest)
          else .error (.unexpected c)
        | [] => .error .unexpectedEnd

end

/-- The value that a whole text stands for. -/
def read (text : String) : Except Fault Json :=
  match readValue maximalDepth (2 * text.length + 2) text.toList with
  | .error fault => .error fault
  | .ok (value, rest) => if (skipBlanks rest).isEmpty then .ok value else .error .trailing

end SchemaAssessment.Json

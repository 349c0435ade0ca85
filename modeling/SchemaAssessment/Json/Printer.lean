/-
JSON values as text, indented or on one line. Indented text has two blanks for each
level, one member or item on a line, and empty arrays and objects as a bare pair of
brackets. Text on one line has no blanks at all outside strings.
-/

import SchemaAssessment.Json.Basic
import SchemaAssessment.Text.Quoted

namespace SchemaAssessment.Json

/-- Pads hexadecimal digits to four places. -/
def fourHexDigits (n : Nat) : List Char :=
  let digits := Digits.lowerHex n
  List.replicate (4 - digits.length) '0' ++ digits

/-- One character inside a JSON string. Only quotes, backslashes and control characters are
escaped. -/
def escapeChar (c : Char) : List Char :=
  if c == '"' || c == '\\' then ['\\', c]
  else if c == '\n' then ['\\', 'n']
  else if c == '\r' then ['\\', 'r']
  else if c == '\t' then ['\\', 't']
  else if c.toNat == 8 then ['\\', 'b']
  else if c.toNat == 12 then ['\\', 'f']
  else if c.toNat < 32 then '\\' :: 'u' :: fourHexDigits c.toNat
  else [c]

/-- A JSON string. -/
def printString (text : String) : String :=
  String.ofList ('"' :: text.toList.flatMap escapeChar ++ ['"'])

/-- A line break followed by the indentation of a level. -/
def lineBreak (level : Nat) : String :=
  String.ofList ('\n' :: List.replicate (2 * level) ' ')

/-- Comma separated lines between two brackets, or the bare brackets if there are none. -/
def block (opening closing : String) (level : Nat) (lines : List String) : String :=
  if lines.isEmpty then opening ++ closing
  else opening ++ lineBreak (level + 1) ++ ("," ++ lineBreak (level + 1)).intercalate lines
    ++ lineBreak level ++ closing

mutual

/-- A value at a level of indentation. What stands for nothing is written as `null`. -/
def printAt (level : Nat) : Json → String
  | .null | .unreadable => "null"
  | .bool true => "true"
  | .bool false => "false"
  | .whole value => toString value
  | .literal text => text
  | .string text => printString text
  | .array items => block "[" "]" level (printItems (level + 1) items)
  | .object members => block "\x7b" "\x7d" level (printMembers (level + 1) members)

/-- The items of an array, each at the given level. -/
def printItems (level : Nat) : List Json → List String
  | [] => []
  | item :: rest => printAt level item :: printItems level rest

/-- The members of an object, each at the given level. -/
def printMembers (level : Nat) : List (String × Json) → List String
  | [] => []
  | (key, value) :: rest =>
    (printString key ++ ": " ++ printAt level value) :: printMembers level rest

end

/-- A value as indented text. -/
def print (json : Json) : String := printAt 0 json

mutual

/-- A value as text on one line. What stands for nothing is written as `null`. -/
def compact : Json → String
  | .null | .unreadable => "null"
  | .bool true => "true"
  | .bool false => "false"
  | .whole value => toString value
  | .literal text => text
  | .string text => printString text
  | .array items => "[" ++ ",".intercalate (compactItems items) ++ "]"
  | .object members => "\x7b" ++ ",".intercalate (compactMembers members) ++ "\x7d"

/-- The items of an array on one line. -/
def compactItems : List Json → List String
  | [] => []
  | item :: rest => item.compact :: compactItems rest

/-- The members of an object on one line. -/
def compactMembers : List (String × Json) → List String
  | [] => []
  | (key, value) :: rest => (printString key ++ ":" ++ value.compact) :: compactMembers rest

end

end SchemaAssessment.Json

/-
The lexical forms of names. A Name starts with a name start character and goes on
with name characters, colons counting as both; an NCName holds no colon; an Nmtoken
is any run of name characters; a QName is an NCName, or two of them around its
first colon.
-/

import SchemaAssessment.Text.Blank

namespace SchemaAssessment.Name

/-! ### Character classes -/

/-- The ranges of code points that start a name. -/
def startRanges : List (Nat × Nat) := [
  (0x41, 0x5A), (0x5F, 0x5F), (0x61, 0x7A), (0xC0, 0xD6), (0xD8, 0xF6), (0xF8, 0x2FF),
  (0x370, 0x37D), (0x37F, 0x1FFF), (0x200C, 0x200D), (0x2070, 0x218F), (0x2C00, 0x2FEF),
  (0x3001, 0xD7FF), (0xF900, 0xFDCF), (0xFDF0, 0xFFFD), (0x10000, 0xEFFFF)]

/-- The ranges of code points that go on with a name but do not start one. -/
def restRanges : List (Nat × Nat) := [
  (0x2D, 0x2E), (0x30, 0x39), (0xB7, 0xB7), (0x300, 0x36F), (0x203F, 0x2040)]

/-- A code point lies in one of the ranges. -/
def inRanges (ranges : List (Nat × Nat)) (c : Char) : Bool :=
  ranges.any fun range => range.1 ≤ c.toNat && c.toNat ≤ range.2

/-- A character that starts a name; the colon is left out. -/
def isStart (c : Char) : Bool := inRanges startRanges c

/-- A character that a name goes on with; the colon is left out. -/
def isRest (c : Char) : Bool := isStart c || inRanges restRanges c

/-! ### Names -/

/-- An NCName: a start character, then name characters. -/
def isNCName (text : String) : Bool :=
  match text.toList with
  | [] => false
  | c :: rest => isStart c && rest.all isRest

/-- A Name: like an NCName, but colons are allowed everywhere. -/
def isName (text : String) : Bool :=
  match text.toList with
  | [] => false
  | c :: rest => (c == ':' || isStart c) && rest.all fun c => c == ':' || isRest c

/-- An Nmtoken: name characters and colons, at least one. -/
def isNmtoken (text : String) : Bool :=
  !text.toList.isEmpty && text.toList.all fun c => c == ':' || isRest c

/-- The prefix and the local part around the first colon. -/
def splitQName (text : String) : Option String × String :=
  match Text.splitOnce ':' text with
  | some (namePrefix, localPart) => (some namePrefix, localPart)
  | none => (none, text)

/-- A QName: an NCName, or two NCNames around the first colon. -/
def isQName (text : String) : Bool :=
  match splitQName text with
  | (some namePrefix, localPart) => isNCName namePrefix && isNCName localPart
  | (none, _) => isNCName text

end SchemaAssessment.Name

/-
Names of hosts in any script. A name is a row of labels with points between them. Its
characters are brought to one spelling, every label is checked, and a label with
characters outside the basic alphabet is written in that alphabet. A name in which
both directions of writing occur has to be readable in one way only.
-/

import SchemaAssessment.Text.Blank
import SchemaAssessment.Unicode.Direction
import SchemaAssessment.Unicode.Normal
import SchemaAssessment.Url.Basic
import SchemaAssessment.Url.Mapping
import SchemaAssessment.Url.Punycode

namespace SchemaAssessment.Url

open Unicode (Direction direction)

/-- Characters that no domain may hold. -/
def isForbidden (c : Char) : Bool :=
  isControl c || c == ' ' || c == '#' || c == '%' || c == '/' || c == ':' || c == '<' || c == '>' ||
    c == '?' || c == '@' || c == '[' || c == '\\' || c == ']' || c == '^' || c == '|'

/-! ### Labels -/

/-- A label as it is shown, and as it is written in the basic alphabet. -/
structure Label where
  shown : List Char
  written : List Char
  deriving DecidableEq, Repr, Inhabited

/-- A mark of the ninth class suppresses the vowel of the letter before it. -/
def isVowelKiller (c : Char) : Bool := Unicode.orderClass c.toNat == 9

/-- The characters that ask for joined or for separate letters stand only where they make a
difference: after a suppressed vowel, or between letters that would join. The text before is read
backwards. -/
def joinersMatter (before : List Char) : List Char → Bool
  | [] => true
  | c :: after =>
    let isAllowed :=
      if Unicode.joinControl.has c then
        before.head?.any isVowelKiller || (c.toNat == 0x200C && Unicode.joinAcross before after)
      else true
    isAllowed && joinersMatter (c :: before) after

/-- A label may be shown if it begins with no mark and joiners stand where they matter. -/
def isShowable (label : List Char) : Bool :=
  !(label.head?.any Unicode.latestMarks.has) && joinersMatter [] label

/-- What marks a label that is written for another. -/
def encodedMark : List Char := "xn--".toList

/-- The label that is written after the mark: it holds other than basic characters, all in their
one spelling. -/
def decodedLabel? (text : List Char) : Option (List Char) := do
  if 2000 < text.length then none
  else
    let label ← Punycode.decode? text
    if !label.all Punycode.isBasic && label.all isSettled && Unicode.normalize label == label &&
        isShowable label then
      some label
    else none

/-- A label of a name whose characters are in their one spelling. -/
def label? (label : List Char) : Option Label :=
  match Text.dropPrefix? encodedMark label with
  | some text => (decodedLabel? text).map fun decoded => ⟨decoded, label⟩
  | none =>
    if label.all Punycode.isBasic then some ⟨label, label⟩
    else if label.length ≤ 1000 && isShowable label then
      some ⟨label, encodedMark ++ Punycode.encode label⟩
    else none

/-! ### Direction -/

/-- The direction of the last character that is no mark, if there is one. -/
def lastDirection? (directions : List Direction) : Option Direction :=
  (directions.reverse.dropWhile (· == .mark)).head?

/-- A label that is written from left to right holds nothing else and ends in a letter or a
number. -/
def isLeftToRight (directions : List Direction) : Bool :=
  let ends : List Direction := [.leftToRight, .europeanNumber]
  directions.all ([.leftToRight, .europeanNumber, .neutral, .mark].contains ·) &&
    (lastDirection? directions).any (ends.contains ·)

/-- A label that is written from right to left holds no letters of the other direction, ends in a
letter or a number, and has numbers of one kind. -/
def isRightToLeft (directions : List Direction) : Bool :=
  let ends : List Direction := [.rightToLeft, .europeanNumber, .arabicNumber]
  !directions.contains .leftToRight &&
    !(directions.contains .europeanNumber && directions.contains .arabicNumber) &&
    (lastDirection? directions).any (ends.contains ·)

/-- The label begins with a letter and keeps to the direction of that letter. -/
def keepsDirection (label : List Char) : Bool :=
  let directions := label.map direction
  match directions.head? with
  | none => true
  | some .leftToRight => isLeftToRight directions
  | some .rightToLeft => isRightToLeft directions
  | some _ => false

/-- The label holds letters or digits of a script that is written from right to left. -/
def turnsBack (label : List Char) : Bool :=
  label.any fun c => direction c == .rightToLeft || direction c == .arabicNumber

/-! ### Names -/

/-- The labels of a name, if they may stand together. -/
def labels? (name : List Char) : Option (List Label) := do
  let mapped ← mapText? name
  let labels ← ((Unicode.normalize mapped).splitOnP (· == '.')).mapM label?
  if labels.any (turnsBack ·.shown) && !labels.all (keepsDirection ·.shown) then none
  else some labels

/-- The name in the basic alphabet, from a text in which bytes may be encoded. -/
def domain? (chars : List Char) : Option (List Char) := do
  let decoded ← String.fromUTF8? ⟨(percentDecode chars).toArray⟩
  let labels ← labels? decoded.toList
  let domain := List.intercalate ['.'] (labels.map (·.written))
  if domain.isEmpty || domain.any isForbidden then none else some domain

end SchemaAssessment.Url

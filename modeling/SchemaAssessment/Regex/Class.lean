/-
Character classes. Where case is ignored a class takes in every character that differs
from a member in case alone, and it does so before it is negated. Where just the basic
alphabet counts, a class that would hold other characters cannot be written.
-/

import SchemaAssessment.Regex.Flags
import SchemaAssessment.Regex.Pattern
import SchemaAssessment.Unicode.Folding
import SchemaAssessment.Unicode.Property

namespace SchemaAssessment.Regex

open Unicode (CodeSet)

/-! ### Sets -/

/-- The basic alphabet. -/
def basicAlphabet : CodeSet := .range 0 0x7F

/-- Decimal digits. -/
def digits : CodeSet := Unicode.Category.setOf [.decimalNumber]

/-- Word characters: alphabetic characters, marks, decimal digits, connectors and joiners. -/
def wordCharacters : CodeSet :=
  .unions [Unicode.alphabetic, Unicode.joinControl,
    Unicode.Category.setOf (.decimalNumber :: .connectorPunctuation :: Unicode.Category.marks)]

/-- The letters from one to another, the figures and so on: some runs of characters. -/
def spans (pairs : List (Char × Char)) : CodeSet :=
  .ofRuns (pairs.map fun (low, high) => ⟨low.toNat, high.toNat⟩)

/-- The ten figures. -/
def basicDigits : CodeSet := spans [('0', '9')]

/-- The word characters of the basic alphabet. -/
def basicWordCharacters : CodeSet := spans [('0', '9'), ('A', 'Z'), ('_', '_'), ('a', 'z')]

/-- The blanks of the basic alphabet. -/
def basicBlanks : CodeSet := spans [('\t', '\r'), (' ', ' ')]

/-- The classes of the basic alphabet that have a name. -/
def basicClasses : List (String × CodeSet) := [
  ("alnum", spans [('0', '9'), ('A', 'Z'), ('a', 'z')]), ("alpha", spans [('A', 'Z'), ('a', 'z')]),
  ("ascii", basicAlphabet), ("blank", spans [('\t', '\t'), (' ', ' ')]),
  ("cntrl", .ofRuns [⟨0, 0x1F⟩, ⟨0x7F, 0x7F⟩]), ("digit", basicDigits),
  ("graph", spans [('!', '~')]), ("lower", spans [('a', 'z')]), ("print", spans [(' ', '~')]),
  ("punct", .ofRuns [⟨0x21, 0x2F⟩, ⟨0x3A, 0x40⟩, ⟨0x5B, 0x60⟩, ⟨0x7B, 0x7E⟩]),
  ("space", basicBlanks), ("upper", spans [('A', 'Z')]), ("word", basicWordCharacters),
  ("xdigit", spans [('0', '9'), ('A', 'F'), ('a', 'f')])]

/-! ### Case -/

/-- The runs of a set inside a run, moved from the beginning of that run to another place. -/
def movedRuns (set : CodeSet) (run : Unicode.Run) (place : Nat) : List Unicode.Run :=
  (Unicode.CodeSet.commonRuns run set.runs).map fun common =>
    ⟨common.low - run.low + place, common.high - run.low + place⟩

/-- The set with the other case of each letter of the basic alphabet. -/
def foldBasic (set : CodeSet) : CodeSet :=
  .ofRuns (set.runs ++ movedRuns set ⟨0x41, 0x5A⟩ 0x61 ++ movedRuns set ⟨0x61, 0x7A⟩ 0x41)

/-- The set as case asks for it. -/
def Flags.fold (flags : Flags) (set : CodeSet) : CodeSet :=
  if !flags.ignoreCase then set else if flags.basic then foldBasic set else set.fold

/-! ### Classes under flags -/

/-- The class or its complement. The basic alphabet knows no complements. -/
def Flags.negate? (flags : Flags) (negated : Bool) (set : CodeSet) : Option CodeSet :=
  if !negated then some set else if flags.basic then none else some set.complement

/-- The class with what case adds, or the complement of that. -/
def Flags.close? (flags : Flags) (negated : Bool) (set : CodeSet) : Option CodeSet :=
  flags.negate? negated (flags.fold set)

/-- A range of characters, all of them in the basic alphabet if that is what counts. -/
def Flags.range? (flags : Flags) (low high : Char) : Option CodeSet :=
  if flags.basic && 0x80 ≤ high.toNat then none
  else if low ≤ high then
    some ((CodeSet.range low.toNat high.toNat).intersection CodeSet.characters)
  else none

/-- The class that one of the letters d, s and w stands for; a capital stands for the
complement. Case does not change it. -/
def Flags.shortClass? (flags : Flags) (letter : Char) : Option CodeSet :=
  let named : Option (CodeSet × CodeSet) := match letter.toLower with
    | 'd' => some (digits, basicDigits)
    | 's' => some (Unicode.whiteSpace, basicBlanks)
    | 'w' => some (wordCharacters, basicWordCharacters)
    | _ => none
  named.bind fun (set, basicSet) =>
    flags.negate? letter.isUpper (if flags.basic then basicSet else set)

/-- The class with a name in brackets and colons, or its complement. -/
def Flags.basicClass? (flags : Flags) (negated : Bool) (name : List Char) : Option CodeSet :=
  (basicClasses.lookup (String.ofList name)).bind (flags.close? negated)

/-- The characters that the point takes. -/
def Flags.dot? (flags : Flags) : Option CodeSet :=
  if flags.basic then none
  else if flags.dotTakesAll then some CodeSet.characters
  else if flags.returns then some (CodeSet.ofCodes [0x0A, 0x0D]).complement
  else some (CodeSet.single 0x0A).complement

/-- The pattern of one character. -/
def Flags.character (flags : Flags) (c : Char) : Pattern :=
  if flags.basic && 0x80 ≤ c.toNat then .literal [c]
  else .ofSet (flags.fold (.single c.toNat))

/-! ### Properties -/

/-- The text before and after the first place where `mark` stands. -/
def splitAtMark (mark : List Char) : List Char → Option (List Char × List Char)
  | [] => none
  | c :: rest =>
    if mark.isPrefixOf (c :: rest) then some ([], (c :: rest).drop mark.length)
    else (splitAtMark mark rest).map fun (before, after) => (c :: before, after)

/-- The class of a property that is written between braces: a name, or a name and a value, of
which the class is the complement if they are said to be unequal. -/
def Flags.property? (flags : Flags) (negated : Bool) (content : List Char) : Option CodeSet :=
  if flags.basic then none
  else match splitAtMark ['!', '='] content with
    | some (name, value) => do flags.close? (!negated) (← Unicode.propertyValue? name value)
    | none =>
      match splitAtMark [':'] content <|> splitAtMark ['='] content with
      | some (name, value) => do flags.close? negated (← Unicode.propertyValue? name value)
      | none => do flags.close? negated (← Unicode.property? content)

end SchemaAssessment.Regex

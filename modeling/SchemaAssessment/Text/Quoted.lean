/-
Quoted text, the form in which messages show names and value lists. A text stands
between double quotes; quotes, backslashes and the common control characters are
escaped by a backslash, and a character that would not be seen on its own is
written as its code point in hexadecimal between braces.
-/

import SchemaAssessment.Number.Digits
import SchemaAssessment.Unicode.Addition

namespace SchemaAssessment.Text

/-- The escape that names a code point. -/
def codePointEscape (c : Char) : List Char :=
  '\\' :: 'u' :: Char.ofNat 0x7B :: Digits.lowerHex c.toNat ++ [Char.ofNat 0x7D]

/-- Code points without a glyph of their own: controls, formats, blanks other than the plain
space, what is kept for private use, what has no meaning, and what is shown as nothing. -/
def invisible : Unicode.CodeSet :=
  .unions [
    Unicode.Category.setOf [.control, .format, .surrogate, .privateUse],
    (Unicode.Category.setOf Unicode.Category.separators).difference (.single 0x20),
    Unicode.latestUnassigned, Unicode.defaultIgnorable]

/-- Marks that would be drawn over the character before them. Letters that modify what stands
before them are drawn on their own. -/
def overlaid : Unicode.CodeSet :=
  Unicode.latestExtend.difference (Unicode.Category.setOf [.modifierLetter])

/-- One character as it stands inside quotes. -/
def quoteChar (c : Char) : List Char :=
  if c == Char.ofNat 0 then ['\\', '0']
  else if c == '\t' then ['\\', 't']
  else if c == '\r' then ['\\', 'r']
  else if c == '\n' then ['\\', 'n']
  else if c == '"' || c == '\\' then ['\\', c]
  else if overlaid.has c || invisible.has c then codePointEscape c
  else [c]

/-- A text between quotes. -/
def quote (text : String) : String :=
  String.ofList ('"' :: text.toList.flatMap quoteChar ++ ['"'])

/-- A list of quoted texts between brackets. -/
def quoteList (texts : List String) : String :=
  "[" ++ ", ".intercalate (texts.map quote) ++ "]"

/-- A text that may be absent: the word `None`, or the quoted text inside `Some`. -/
def quoteOption : Option String → String
  | none => "None"
  | some text => "Some(" ++ quote text ++ ")"

end SchemaAssessment.Text

/-
References in text and in attribute values. A reference stands between an ampersand
and the next semicolon and names one of five characters, or gives the number of a
character. The text is cut at its ampersands, so that every piece but the first
begins with a reference.
-/

import SchemaAssessment.Markup.Fault
import SchemaAssessment.Number.Digits
import SchemaAssessment.Text.Blank

namespace SchemaAssessment.Markup

/-- The characters that have names. -/
def namedCharacters : List (String × Char) :=
  [("lt", '<'), ("gt", '>'), ("amp", '&'), ("quot", '"'), ("apos", '\'')]

/-- The number of digits that the greatest number of a character has. -/
def mostDigits (base : Nat) : Nat := if base == 16 then 6 else 7

/-- The character with a number written in a base. Zero is the number of no character. -/
def numbered? (base : Nat) (digits : List Char) : Option Char :=
  if mostDigits base < digits.length then none
  else (Digits.number? base digits).bind fun code =>
    if code != 0 && code.isValidChar then some (Char.ofNat code) else none

/-- The character that a reference stands for. -/
def referenced : List Char → Except ReferenceFault Char
  | '#' :: 'x' :: digits => (numbered? 16 digits).elim (.error (.noCharacter (.ofList digits))) .ok
  | '#' :: digits => (numbered? 10 digits).elim (.error (.noCharacter (.ofList digits))) .ok
  | name =>
    (namedCharacters.lookup (.ofList name)).elim (.error (.unknown (.ofList name))) .ok

/-- A piece of text behind an ampersand: the reference is replaced by its character. -/
def expandPiece (piece : List Char) : Except ReferenceFault (List Char) :=
  match piece.dropWhile (· != ';') with
  | [] => .error .unclosed
  | _ :: rest => (referenced (piece.takeWhile (· != ';'))).map (· :: rest)

/-- A text with its references replaced by their characters. -/
def expandReferences (text : List Char) : Except ReferenceFault String :=
  match text.splitOnP (· == '&') with
  | [] => .ok ""
  | plain :: pieces => do
    let expanded ← pieces.mapM expandPiece
    return .ofList (plain ++ expanded.flatten)

end SchemaAssessment.Markup

/-
Numeric addresses of hosts. An address of four bytes is written as at most four
numbers with points between them; an address of eight pieces is written in
hexadecimal with colons, and one run of zeros may be left out.
-/

import SchemaAssessment.Number.Digits
import SchemaAssessment.Text.Digit

namespace SchemaAssessment.Url

/-! ### Addresses of four bytes -/

/-- A number in decimal, in octal after a zero, or in hexadecimal after `0x`. -/
def addressNumber? (digits : List Char) : Option Nat :=
  match digits with
  | [] => none
  | '0' :: 'x' :: rest => Digits.number? 16 rest
  | '0' :: 'X' :: rest => Digits.number? 16 rest
  | '0' :: c :: rest => Digits.number? 8 (c :: rest)
  | digits => Digits.number? 10 digits

/-- The parts of a domain, without the empty one after a final point. -/
def domainParts (domain : List Char) : List (List Char) :=
  let parts := domain.splitOnP (· == '.')
  if 1 < parts.length && parts.getLast? == some [] then parts.dropLast else parts

/-- The last part of a domain is a number. -/
def endsInNumber (domain : List Char) : Bool :=
  match (domainParts domain).getLast? with
  | some last =>
    (!last.isEmpty && last.all Text.isAsciiDigit) || (addressNumber? last).isSome
  | none => false

/-- The address of at most four numbers, of which the last fills the bytes that are left. -/
def fourAddress? (domain : List Char) : Option Nat := do
  let parts := domainParts domain
  if 4 < parts.length then none
  else
    let numbers ← parts.mapM addressNumber?
    let last ← numbers.getLast?
    let front := numbers.dropLast
    if last < twoTo (8 * (4 - front.length)) && front.all (· < 256) then
      some (last + (front.zip [24, 16, 8]).foldl (fun sum part => sum + part.1 * twoTo part.2) 0)
    else none

/-! ### Addresses of eight pieces -/

/-- A piece of at most four hexadecimal digits. -/
def piece? (digits : List Char) : Option Nat :=
  if digits.isEmpty || 4 < digits.length then none else Digits.number? 16 digits

/-- Two pieces written as four decimal bytes. -/
def lastBytes? (digits : List Char) : Option (List Nat) := do
  let parts := digits.splitOnP (· == '.')
  let byte? (digits : List Char) : Option Nat :=
    if digits.isEmpty || 3 < digits.length || (1 < digits.length && digits.head? == some '0') then
      none
    else (Digits.number? 10 digits).filter (· < 256)
  match ← parts.mapM byte? with
  | [a, b, c, d] => some [a * 256 + b, c * 256 + d]
  | _ => none

/-- Pieces with colons between them; only at the end may bytes stand for two pieces. -/
def pieces? (bytesAllowed : Bool) (chars : List Char) : Option (List Nat) :=
  if chars.isEmpty then some []
  else
    let parts := chars.splitOnP (· == ':')
    match parts.getLast? with
    | some last =>
      if bytesAllowed && last.contains '.' then do
        return (← parts.dropLast.mapM piece?) ++ (← lastBytes? last)
      else parts.mapM piece?
    | none => none

/-- The text before and after the first pair of colons. -/
def splitAtGap : List Char → Option (List Char × List Char)
  | [] => none
  | ':' :: ':' :: rest => some ([], rest)
  | c :: rest => (splitAtGap rest).map fun parts => (c :: parts.1, parts.2)

/-- Eight pieces, of which one run of zeros may be left out between two colons. -/
def sixAddress? (chars : List Char) : Option (List Nat) :=
  match splitAtGap chars with
  | some (front, back) => do
    let front ← pieces? false front
    let back ← pieces? true back
    if front.length + back.length < 8 then
      some (front ++ List.replicate (8 - front.length - back.length) 0 ++ back)
    else none
  | none => (pieces? true chars).filter (·.length == 8)

end SchemaAssessment.Url

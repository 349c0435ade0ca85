/-
Authorities of locators: who is asked, where, and through which port. An authority is
all that stands before the slash, question mark or number sign that ends it. Its host
stands between brackets if it is an address of eight pieces. A scheme with rules of its
own takes a name otherwise, which is an address of four bytes if its last label is a
number; any other scheme takes whatever holds no delimiter. What can be wrong is a
missing host, a host that is none, or a port that is no number below 65536.
-/

import SchemaAssessment.Text.Blank
import SchemaAssessment.Url.Address
import SchemaAssessment.Url.Domain

namespace SchemaAssessment.Url

/-! ### Hosts -/

/-- An address between brackets. -/
def bracketed? (chars : List Char) : Option Host :=
  if chars.getLast? == some ']' then (sixAddress? chars.dropLast).map .six else none

/-- The host of a scheme with rules of its own. -/
def specialHost? : List Char → Option Host
  | '[' :: rest => bracketed? rest
  | chars => do
    let domain ← domain? chars
    if endsInNumber domain then (fourAddress? domain).map .four
    else some (.domain (String.ofList domain))

/-- The host of any other scheme. -/
def plainHost? : List Char → Option Host
  | '[' :: rest => bracketed? rest
  | chars =>
    let forbidden (c : Char) : Bool :=
      c.toNat == 0 || (isForbidden c && !isControl c && c != '%')
    if chars.any forbidden then none
    else some (.domain (String.ofList (percentEncode isControl chars)))

/-! ### Authorities -/

/-- The usual ports of the schemes that have rules of their own. A file has none. -/
def usualPorts : List (String × Option Nat) := [
  ("http", some 80), ("https", some 443), ("ws", some 80), ("wss", some 443), ("ftp", some 21),
  ("file", none)]

/-- The scheme has rules of its own. -/
def isSpecial (scheme : String) : Bool := (usualPorts.lookup scheme).isSome

/-- A slash, or a backslash that counts as one. -/
def isSlash (special : Bool) (c : Char) : Bool := c == '/' || (special && c == '\\')

/-- A character that ends an authority. -/
def endsAuthority (special : Bool) (c : Char) : Bool := isSlash special c || c == '?' || c == '#'

/-! ### Users -/

/-- A user. An empty password is dropped with its colon, and a user without a name and a password
altogether. -/
def readUser (chars : List Char) : Option String :=
  let (name, password) := match Text.splitAtFirst (· == ':') chars with
    | some (name, password) => (name, password)
    | none => (chars, [])
  let encode := percentEncode inUserSet
  if name.isEmpty && password.isEmpty then none
  else some (String.ofList (encode name ++ if password.isEmpty then [] else ':' :: encode password))

/-- The user before the last at sign, and what follows it. An at sign with nothing on either side
is refused if the locator goes on. -/
def splitUser? (goesOn : Bool) (chars : List Char) : Option (Option String × List Char) :=
  match Text.splitAtFirst (· == '@') chars.reverse with
  | none => some (none, chars)
  | some ([], []) => if goesOn then none else some (none, [])
  | some (back, front) => some (readUser front.reverse, back.reverse)

/-! ### Hosts and ports -/

/-- The host up to a colon outside brackets, and what follows it. -/
def splitHost (inBrackets : Bool) : List Char → List Char × List Char
  | [] => ([], [])
  | c :: rest =>
    if c == ':' && !inBrackets then ([], c :: rest)
    else
      let inside := if c == '[' then true else if c == ']' then false else inBrackets
      let (host, after) := splitHost inside rest
      (c :: host, after)

/-- A port, and what follows it. A backslash ends the digits like the end of the authority. The
usual port of a scheme is not told. -/
def port? (usual : Option Nat) (chars : List Char) : Option (Option Nat × List Char) := do
  let digits := chars.takeWhile Text.isAsciiDigit
  let rest := chars.dropWhile Text.isAsciiDigit
  let number ← Digits.number? 10 digits
  if 65535 < number || !(rest.isEmpty || rest.head? == some '\\') then none
  else some (if digits.isEmpty || some number == usual then none else some number, rest)

/-- A host that is not left out. A scheme with rules of its own needs one. -/
def host? (special : Bool) (chars : List Char) : Option (Option Host) :=
  if chars.isEmpty then (if special then none else some none)
  else (if special then specialHost? chars else plainHost? chars).map some

/-- An authority in front, and what follows it. Without a host there are no user and no port. -/
def readAuthority (scheme : String) (chars : List Char) : Option (Authority × List Char) := do
  let special := isSpecial scheme
  let ends := endsAuthority special
  let back := chars.dropWhile fun c => !ends c
  let (user, rest) ← splitUser? (!back.isEmpty) (chars.takeWhile fun c => !ends c)
  let (hostText, portText) := splitHost false rest
  let host ← host? special hostText
  if host.isNone && (user.isSome || !portText.isEmpty) then none
  else
    let (port, rest) ← port? (usualPorts.lookup scheme).join (portText.drop 1)
    some (⟨user, host, port⟩, rest ++ back)

end SchemaAssessment.Url

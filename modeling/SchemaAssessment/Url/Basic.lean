/-
Uniform resource locators in their parts, and how they are written. Characters that
may not stand in a part are written as their bytes in hexadecimal.
-/

import SchemaAssessment.Number.Digits

namespace SchemaAssessment

/-- The host of a locator. -/
inductive Url.Host where
  | domain (name : String)
  | four (address : Nat)
  | six (pieces : List Nat)
  deriving DecidableEq, Repr, Inhabited

/-- Who is asked: the user as written before an at sign, the host, and the port if it is not the
usual one of the scheme. -/
structure Url.Authority where
  user : Option String
  host : Option Url.Host
  port : Option Nat
  deriving DecidableEq, Repr, Inhabited

/-- A locator. Its path begins with a slash if it has an authority, or else may be any text. -/
structure Url where
  scheme : String
  authority : Option Url.Authority
  path : String
  query : Option String
  fragment : Option String
  deriving DecidableEq, Repr, Inhabited

namespace Url

/-! ### Percent encoding -/

/-- A byte as a percent sign and two digits. -/
def encodeByte (byte : UInt8) : List Char :=
  ['%', Digits.upperHex (byte.toNat / 16), Digits.upperHex (byte.toNat % 16)]

/-- The bytes of a character. -/
def bytesOf (c : Char) : List UInt8 := (String.singleton c).toUTF8.toList

/-- Writes the characters of a set, and all outside the basic alphabet, as their bytes. -/
def percentEncode (isEncoded : Char → Bool) (chars : List Char) : List Char :=
  chars.flatMap fun c =>
    if 128 ≤ c.toNat || isEncoded c then (bytesOf c).flatMap encodeByte else [c]

/-- The bytes of a text in which a percent sign and two digits stand for a byte. -/
def percentDecode : List Char → List UInt8
  | [] => []
  | '%' :: a :: b :: rest =>
    match Digits.value? a, Digits.value? b with
    | some high, some low => (high * 16 + low).toUInt8 :: percentDecode rest
    | _, _ => bytesOf '%' ++ percentDecode (a :: b :: rest)
  | c :: rest => bytesOf c ++ percentDecode rest

/-- Control characters. -/
def isControl (c : Char) : Bool := c.toNat < 32 || c.toNat == 127

/-- The characters that a fragment encodes. -/
def inFragmentSet (c : Char) : Bool :=
  isControl c || c == ' ' || c == '"' || c == '<' || c == '>' || c.toNat == 0x60

/-- The characters that a query encodes. A special scheme also encodes the apostrophe. -/
def inQuerySet (special : Bool) (c : Char) : Bool :=
  isControl c || c == ' ' || c == '"' || c == '#' || c == '<' || c == '>' ||
    (special && c.toNat == 0x27)

/-- The characters that a path encodes. -/
def inPathSet (c : Char) : Bool :=
  inFragmentSet c || c == '#' || c == '?' || c.toNat == 0x7B || c.toNat == 0x7D

/-- The characters that a user name or password encodes. -/
def inUserSet (c : Char) : Bool :=
  inPathSet c || c == '/' || c == ':' || c == ';' || c == '=' || c == '@' || c == '[' ||
    c == '\\' || c == ']' || c == '^' || c == '|'

/-! ### Writing -/

/-- The digits of a number in lower-case hexadecimal. -/
def hexText (n : Nat) : String := String.ofList (Digits.lowerHex n)

/-- How long the run of zeros at the front is. -/
def zeroRun (pieces : List Nat) : Nat := (pieces.takeWhile (· == 0)).length

/-- Where the first of the longest runs of at least two zeros begins, and its length. -/
def longestZeros (pieces : List Nat) : Option (Nat × Nat) :=
  let runs := (List.range pieces.length).map fun start => (start, zeroRun (pieces.drop start))
  runs.foldl (fun best run =>
    if run.2 < 2 then best
    else match best with
      | some found => if found.2 < run.2 then some run else best
      | none => some run) none

/-- Eight pieces in hexadecimal with colons, the longest run of zeros left out. -/
def sixText (pieces : List Nat) : String :=
  let join (pieces : List Nat) : String := ":".intercalate (pieces.map hexText)
  match longestZeros pieces with
  | some (start, length) => join (pieces.take start) ++ "::" ++ join (pieces.drop (start + length))
  | none => join pieces

/-- The host as written. -/
def Host.text : Host → String
  | .domain name => name
  | .four address => ".".intercalate
      ([24, 16, 8, 0].map fun bits => toString (address / twoTo bits % 256))
  | .six pieces => "[" ++ sixText pieces ++ "]"

/-- User, host and port as written. -/
def Authority.text (authority : Authority) : String :=
  (match authority.user with
    | some user => user ++ "@"
    | none => "") ++
  (match authority.host with
    | some host => host.text
    | none => "") ++
  (match authority.port with
    | some port => ":" ++ toString port
    | none => "")

/-- The locator as written. A path that could be taken for an authority is kept apart from the
scheme by a dot segment. -/
def text (url : Url) : String :=
  url.scheme ++ ":" ++
  (match url.authority with
    | some authority => "//" ++ authority.text
    | none => if url.path.startsWith "//" then "/." else "") ++
  url.path ++
  (match url.query with
    | some query => "?" ++ query
    | none => "") ++
  (match url.fragment with
    | some fragment => "#" ++ fragment
    | none => "")

end Url

end SchemaAssessment

/-
The pieces that regular expressions are written in. Reading a piece depends on the
flags in force, which a group may change for itself or for what follows, so the
flags are carried along with a stack of those outside each open group. What cannot
be read, such as a look-around, a back-reference or an unknown property, has no
pieces. Where blanks and comments are passed over they may stand nearly everywhere,
also between the digits of a number.
-/

import SchemaAssessment.Number.Digits
import SchemaAssessment.Regex.Class
import SchemaAssessment.Text.Blank
import SchemaAssessment.Text.Digit
import SchemaAssessment.Unicode.Addition

namespace SchemaAssessment.Regex

open Unicode (CodeSet)

/-- What kind of group is opened: one that is numbered, by a name or without, or none such. -/
inductive GroupKind where
  | plain
  | numbered (name : Option String)
  deriving DecidableEq, Repr, Inhabited

/-- A piece of a written regular expression. An item tells how deep its classes are nested. -/
inductive Token where
  | item (pattern : Pattern) (depth : Nat)
  | repeated (least : Nat) (most : Option Nat) (greedy : Bool)
  | bar
  | opening (inner : Flags) (kind : GroupKind)
  | closing
  | flags (next : Flags)
  deriving Repr, Inhabited

/-! ### Blanks and comments -/

/-- Drops blanks, and comments up to the end of their line, where they are passed over. -/
def skipSpace (verbose inComment : Bool) : List Char → List Char
  | [] => []
  | c :: rest =>
    if inComment then skipSpace verbose (c != '\n') rest
    else if !verbose then c :: rest
    else if Text.isBlank c then skipSpace verbose false rest
    else if c == '#' then skipSpace verbose true rest
    else c :: rest

/-- The parts at the front, with what is passed over between and after them, and the rest. -/
def spaced (isPart : Char → Bool) (verbose inComment : Bool) :
    List Char → List Char × List Char
  | [] => ([], [])
  | c :: rest =>
    if inComment then spaced isPart verbose (c != '\n') rest
    else if verbose && Text.isBlank c then spaced isPart verbose false rest
    else if verbose && c == '#' then spaced isPart verbose true rest
    else if isPart c then
      let (parts, rest) := spaced isPart verbose false rest
      (c :: parts, rest)
    else ([], c :: rest)

/-- The opening brace. -/
def openingBrace : Char := Char.ofNat 0x7B

/-- The closing brace. -/
def closingBrace : Char := Char.ofNat 0x7D

/-- What follows a character that has to stand in front. -/
def after? (c : Char) : List Char → Option (List Char)
  | [] => none
  | d :: rest => if c == d then some rest else none

/-- What stands between braces, of which the first is behind. -/
def braced? (flags : Flags) (chars : List Char) : Option (List Char × List Char) :=
  let (content, rest) := spaced (· != closingBrace) flags.verbose false chars
  (after? closingBrace rest).map fun rest => (content, rest)

/-! ### Escapes -/

/-- What an escape stands for. A character that is written as a byte is told apart. -/
inductive Escape where
  | character (c : Char) (asByte : Bool)
  | set (set : CodeSet)
  | place (test : PlaceTest)
  deriving Repr, Inhabited

/-- The character with a code point. -/
def scalar? (code : Nat) : Option Char :=
  if code < 0xD800 || (0xDFFF < code && code < 0x110000) then some (Char.ofNat code) else none

/-- The character of hexadecimal digits, of which there has to be one. -/
def hexCharacter? (digits : List Char) : Option Char :=
  if digits.isEmpty then none else (Digits.number? 16 digits).bind scalar?

/-- So many characters, with what is passed over after each of them. -/
def takeSpaced (flags : Flags) : Nat → List Char → Option (List Char × List Char)
  | 0, chars => some ([], chars)
  | _ + 1, [] => none
  | count + 1, c :: rest =>
    (takeSpaced flags count (skipSpace flags.verbose false rest)).map fun (taken, rest) =>
      (c :: taken, rest)

/-- A code point in hexadecimal: between braces, or so many digits. -/
def hexEscape? (flags : Flags) (count : Nat) (chars : List Char) : Option (Escape × List Char) :=
  let chars := skipSpace flags.verbose false chars
  match after? openingBrace chars with
  | some inner => do
    let (digits, rest) ← braced? flags inner
    return (.character (← hexCharacter? digits) false, rest)
  | none => do
    let (digits, rest) ← takeSpaced flags count chars
    return (.character (← hexCharacter? digits) (count == 2), rest)

/-- A property after the letter `p`: one letter, or a name between braces. -/
def propertyEscape? (flags : Flags) (negated : Bool) (chars : List Char) :
    Option (Escape × List Char) :=
  match skipSpace flags.verbose false chars with
  | [] => none
  | '\\' :: _ => none
  | c :: rest =>
    if c == openingBrace then do
      let (content, rest) ← braced? flags rest
      return (.set (← flags.property? negated content), rest)
    else do
      let set ← if flags.basic then none else Unicode.property? [c]
      return (.set (← flags.close? negated set), rest)

/-- The conditions named between braces after `b`. -/
def boundaryNames : List (String × WordPlace) := [
  ("start", .start), ("end", .finish), ("start-half", .startHalf), ("end-half", .finishHalf)]

/-- A word boundary, or one of its named kinds. A brace that no letter or hyphen follows belongs to
a repetition. -/
def boundary? (flags : Flags) (chars : List Char) : Option (Escape × List Char) :=
  let isNamePart (c : Char) : Bool := c.isAlpha || c == '-'
  let plain : Escape := .place (.word .boundary flags.basic)
  match after? openingBrace chars with
  | none => some (plain, chars)
  | some inner =>
    match skipSpace flags.verbose false inner with
    | [] => none
    | c :: rest =>
      if !isNamePart c then some (plain, chars)
      else do
        let (name, rest) := spaced isNamePart flags.verbose false (c :: rest)
        let rest ← after? closingBrace rest
        let place ← boundaryNames.lookup (String.ofList name)
        return (.place (.word place flags.basic), rest)

/-- Marks that stand for themselves after a backslash: those of the basic alphabet that are no
letters, digits or angle brackets. -/
def isEscapable (c : Char) : Bool :=
  c.toNat < 128 && !c.isAlphanum && c != '<' && c != '>'

/-- What stands after a backslash. Digits would refer back. -/
def escape? (flags : Flags) : List Char → Option (Escape × List Char)
  | [] => none
  | c :: rest =>
    let word (place : WordPlace) : Escape := .place (.word place flags.basic)
    let single (code : Nat) : Escape := .character (Char.ofNat code) false
    match c with
    | 'd' | 's' | 'w' | 'D' | 'S' | 'W' => (flags.shortClass? c).map fun set => (.set set, rest)
    | 'p' => propertyEscape? flags false rest
    | 'P' => propertyEscape? flags true rest
    | 'x' => hexEscape? flags 2 rest
    | 'u' => hexEscape? flags 4 rest
    | 'U' => hexEscape? flags 8 rest
    | 'a' => some (single 7, rest)
    | 'f' => some (single 12, rest)
    | 't' => some (single 9, rest)
    | 'n' => some (single 10, rest)
    | 'r' => some (single 13, rest)
    | 'v' => some (single 11, rest)
    | 'A' => some (.place .textStart, rest)
    | 'z' => some (.place .textEnd, rest)
    | 'b' => boundary? flags rest
    | 'B' => some (word .noBoundary, rest)
    | '<' => some (word .start, rest)
    | '>' => some (word .finish, rest)
    | _ => if isEscapable c then some (.character c false, rest) else none

/-! ### Classes between brackets -/

/-- How two classes between the same brackets are combined. -/
inductive SetOperation where
  | intersection
  | difference
  | symmetricDifference
  deriving DecidableEq, Repr, Inhabited

/-- The combination of two sets. -/
def SetOperation.apply : SetOperation → CodeSet → CodeSet → CodeSet
  | .intersection => CodeSet.intersection
  | .difference => CodeSet.difference
  | .symmetricDifference => CodeSet.symmetricDifference

/-- What stands before an operation, and how deep it is nested. -/
structure Operand where
  set : CodeSet
  operation : SetOperation
  depth : Nat
  deriving Repr, Inhabited

/-- A class that is being read: what stands before an operation; the runs of the members since,
how many members there are and how deep they are nested. -/
structure OpenClass where
  negated : Bool
  operand : Option Operand
  runs : List Unicode.Run
  count : Nat
  depth : Nat
  deriving Repr, Inhabited

namespace OpenClass

/-- A class of which no member was read. -/
def start (negated : Bool) : OpenClass := ⟨negated, none, [], 0, 0⟩

/-- One more member. -/
def add (frame : OpenClass) (member : CodeSet) (depth : Nat) : OpenClass :=
  { frame with
    runs := member.runs ++ frame.runs
    count := frame.count + 1
    depth := max frame.depth depth }

/-- What was read so far, combined, and how deep it is nested. Case is looked after before two
sets are combined. -/
def value (flags : Flags) (frame : OpenClass) : CodeSet × Nat :=
  let members := CodeSet.ofRuns frame.runs
  let depth := if 2 ≤ frame.count then frame.depth + 1 else frame.depth
  match frame.operand with
  | some operand =>
    (operand.operation.apply (flags.fold operand.set) (flags.fold members),
      max operand.depth depth + 1)
  | none => (members, depth)

/-- What was read so far becomes the left side of an operation. -/
def combine (flags : Flags) (frame : OpenClass) (operation : SetOperation) : OpenClass :=
  let (set, depth) := frame.value flags
  { start frame.negated with operand := some ⟨set, operation, depth⟩ }

end OpenClass

/-- A named class after its opening bracket: a name between colons, and a closing bracket. -/
def namedClass? (chars : List Char) : Option (Bool × List Char × List Char) := do
  let rest ← after? ':' chars
  let (negated, rest) := match after? '^' rest with
    | some rest => (true, rest)
    | none => (false, rest)
  let (name, rest) ← Text.splitAtFirst (· == ':') rest
  let rest ← after? ']' rest
  if (basicClasses.lookup (String.ofList name)).isSome then some (negated, name, rest) else none

/-- The beginning of a class after its bracket: a circumflex, then hyphens or a closing bracket,
which stand for themselves. -/
def openClass (flags : Flags) (chars : List Char) : OpenClass × List Char :=
  let skip := skipSpace flags.verbose false
  let (negated, chars) := match after? '^' (skip chars) with
    | some rest => (true, skip rest)
    | none => (false, skip chars)
  let (hyphens, chars) := spaced (· == '-') flags.verbose false chars
  let single (c : Char) : CodeSet := .single c.toNat
  let frame := hyphens.foldl (fun frame c => frame.add (single c) 0) (OpenClass.start negated)
  match after? ']' chars with
  | some rest => if hyphens.isEmpty then (frame.add (single ']') 0, skip rest) else (frame, chars)
  | none => (frame, chars)

/-- One member of a class: a character or an escape. -/
def classMember? (flags : Flags) : List Char → Option (Escape × List Char)
  | [] => none
  | '\\' :: rest => escape? flags rest
  | c :: rest => some (.character c false, rest)

/-- The first character after those that are passed over. The line end does not end a comment
here, and the comment's first character counts. -/
def peekFrom (inComment : Bool) (fallback : Option Char) : List Char → Option Char
  | [] => fallback
  | c :: rest =>
    if Text.isBlank c then peekFrom inComment fallback rest
    else if !inComment && c == '#' then peekFrom true fallback rest
    else some c

/-- The character that decides whether a hyphen before it makes a range. -/
def peek? (flags : Flags) (chars : List Char) : Option Char :=
  if flags.verbose then peekFrom false chars.head? chars else chars.head?

/-- A member of a class, or a range when a hyphen and another member follow. -/
def classItem? (flags : Flags) (chars : List Char) : Option (CodeSet × List Char) := do
  let skip := skipSpace flags.verbose false
  let (first, rest) ← classMember? flags chars
  let rest := skip rest
  let second? : Option (List Char) := (after? '-' rest).filter fun more =>
    peek? flags more != some ']' && peek? flags more != some '-'
  match second?, first with
  | some more, .character low _ => do
    match ← classMember? flags (skip more) with
    | (.character high _, rest) => return (← flags.range? low high, rest)
    | _ => none
  | some _, _ => none
  | none, .character c _ => return (← flags.range? c c, rest)
  | none, .set set => return (set, rest)
  | none, .place _ => none

/-- One step of reading nested classes: either they are still open, or the outermost is closed and
its set and depth are known. -/
def classStep? (flags : Flags) (frame : OpenClass) (outer : List OpenClass) (chars : List Char) :
    Option (((OpenClass × List OpenClass) ⊕ (CodeSet × Nat)) × List Char) :=
  match skipSpace flags.verbose false chars with
  | [] => none
  | '[' :: rest =>
    match namedClass? rest with
    | some (negated, name, rest) => do
      return (.inl (frame.add (← flags.basicClass? negated name) 0, outer), rest)
    | none =>
      let (inner, rest) := openClass flags rest
      some (.inl (inner, frame :: outer), rest)
  | ']' :: rest => do
    let (set, depth) := frame.value flags
    let set ← flags.close? frame.negated set
    match outer with
    | [] => return (.inr (set, depth + 1), rest)
    | parent :: outer => return (.inl (parent.add set (depth + 1), outer), rest)
  | '&' :: '&' :: rest => some (.inl (frame.combine flags .intersection, outer), rest)
  | '-' :: '-' :: rest => some (.inl (frame.combine flags .difference, outer), rest)
  | '~' :: '~' :: rest => some (.inl (frame.combine flags .symmetricDifference, outer), rest)
  | chars => (classItem? flags chars).map fun (set, rest) =>
    (.inl (frame.add set 0, outer), rest)

/-- A class up to the bracket that closes it, with its depth. -/
def readClass? (flags : Flags) (frame : OpenClass) (outer : List OpenClass) (chars : List Char) :
    Option ((CodeSet × Nat) × List Char) :=
  match classStep? flags frame outer chars with
  | some (.inr found, rest) => some (found, rest)
  | some (.inl (frame, outer), rest) =>
    if rest.length < chars.length then readClass? flags frame outer rest else none
  | none => none
termination_by chars.length

/-! ### Repetition and groups -/

/-- A count between optional blanks. -/
def count? (flags : Flags) (chars : List Char) : Option (Nat × List Char) :=
  let (digits, rest) :=
    spaced Text.isAsciiDigit flags.verbose false (chars.dropWhile Text.isBlank)
  if digits.isEmpty then none
  else (Digits.number? 10 digits).bind fun value =>
    if value < twoTo 32 then some (value, rest.dropWhile Text.isBlank) else none

/-- The bounds of a repetition after the opening brace. -/
def bounds? (flags : Flags) (chars : List Char) : Option ((Nat × Option Nat) × List Char) := do
  let skip := skipSpace flags.verbose false
  let (least, rest) ← count? flags (skip chars)
  match after? ',' rest with
  | some rest =>
    let rest := skip rest
    match after? closingBrace rest with
    | some rest => return ((least, none), rest)
    | none =>
      let (most, rest) ← count? flags rest
      let rest ← after? closingBrace rest
      if least ≤ most then some ((least, some most), rest) else none
  | none => return ((least, some least), ← after? closingBrace rest)

/-- A repetition, which a question mark makes short, or long where they are short anyway. -/
def repetition (flags : Flags) (least : Nat) (most : Option Nat) (chars : List Char) :
    Token × List Char :=
  match after? '?' chars with
  | some rest => (.repeated least most flags.short, rest)
  | none => (.repeated least most !flags.short, chars)

/-- A character that a name of a group begins with. -/
def startsGroupName (c : Char) : Bool := c == '_' || Unicode.latestAlphabetic.has c

/-- A character that a name of a group goes on with. -/
def goesOnGroupName (c : Char) : Bool :=
  startsGroupName c || c == '.' || c == '[' || c == ']' || Unicode.latestNumbers.has c

/-- The name of a group, up to its closing angle bracket. -/
def groupName? (chars : List Char) : Option (String × List Char) := do
  let (name, rest) ← Text.splitAtFirst (· == '>') chars
  match name with
  | [] => none
  | c :: more =>
    if startsGroupName c && more.all goesOnGroupName then some (String.ofList name, rest) else none

/-- What stands after an opening parenthesis decides what kind of group it opens. -/
def group? (flags : Flags) (chars : List Char) : Option (Token × List Char) :=
  let named (chars : List Char) : Option (Token × List Char) :=
    (groupName? chars).map fun (name, rest) => (.opening flags (.numbered (some name)), rest)
  match chars with
  | '?' :: 'P' :: '<' :: rest => named rest
  | '?' :: '<' :: '=' :: _ => none
  | '?' :: '<' :: '!' :: _ => none
  | '?' :: '<' :: rest => named rest
  | '?' :: rest =>
    match flags.read? true [] rest with
    | some (inner, ':', rest) => some (.opening inner .plain, rest)
    | some (next, _, rest) => some (.flags next, rest)
    | none => none
  | _ => some (.opening flags (.numbered none), chars)

/-! ### Pieces -/

/-- The pattern of an escape. A byte outside the basic alphabet is no character. -/
def escapePattern? (flags : Flags) : Escape → Option Pattern
  | .character c asByte =>
    if flags.basic && asByte && 0x80 ≤ c.toNat then none else some (flags.character c)
  | .set set => some (.ofSet set)
  | .place test => some (.place test)

/-- The piece at the front. -/
def token? (flags : Flags) : List Char → Option (Token × List Char)
  | [] => none
  | '(' :: rest => group? flags (skipSpace flags.verbose false rest)
  | ')' :: rest => some (.closing, rest)
  | '|' :: rest => some (.bar, rest)
  | '.' :: rest => flags.dot?.map fun set => (.item (.ofSet set) 0, rest)
  | '^' :: rest =>
    some (.item (.place (if flags.multiLine then .lineStart flags.returns else .textStart)) 0, rest)
  | '$' :: rest =>
    some (.item (.place (if flags.multiLine then .lineEnd flags.returns else .textEnd)) 0, rest)
  | '*' :: rest => some (repetition flags 0 none rest)
  | '+' :: rest => some (repetition flags 1 none rest)
  | '?' :: rest => some (repetition flags 0 (some 1) rest)
  | '\\' :: rest => do
    let (escape, rest) ← escape? flags rest
    return (.item (← escapePattern? flags escape) 0, rest)
  | '[' :: rest =>
    let (frame, rest) := openClass flags rest
    (readClass? flags frame [] rest).map fun ((set, depth), rest) =>
      (.item (.ofSet set) depth, rest)
  | c :: rest =>
    if c == openingBrace then
      (bounds? flags rest).map fun ((least, most), rest) =>
        repetition flags least most (skipSpace flags.verbose false rest)
    else some (.item (flags.character c) 0, rest)

/-- All pieces, given the flags in force and those outside each open group. -/
def tokens? (flags : Flags) (outer : List Flags) (chars : List Char) : Option (List Token) :=
  let visible := skipSpace flags.verbose false chars
  if visible.isEmpty then some []
  else match token? flags visible with
    | none => none
    | some (token, rest) =>
      if rest.length < chars.length then
        let (flags, outer) := match token, outer with
          | .opening inner _, _ => (inner, flags :: outer)
          | .closing, previous :: outer => (previous, outer)
          | .flags next, _ => (next, outer)
          | _, _ => (flags, outer)
        (tokens? flags outer rest).map (token :: ·)
      else none
termination_by chars.length

end SchemaAssessment.Regex

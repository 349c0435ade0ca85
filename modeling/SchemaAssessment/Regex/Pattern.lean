/-
Regular expressions over characters. Patterns are built by functions that keep them
plain: sequences and choices are not nested in themselves, neighbouring literals are
one literal, a choice between characters is a set, and what branches have in common at
their beginning stands before the choice. How large a pattern is depends on this form;
what it takes does not.
-/

import SchemaAssessment.Unicode.CodeSet

namespace SchemaAssessment.Regex

open Unicode (CodeSet)

/-- A place beside a word. A half condition looks at one side alone. -/
inductive WordPlace where
  | boundary
  | noBoundary
  | start
  | finish
  | startHalf
  | finishHalf
  deriving DecidableEq, Repr, Inhabited

/-- A condition on a place between characters. Lines end at a line feed, or also at a carriage
return; words are made of the basic alphabet, or of all word characters. -/
inductive PlaceTest where
  | textStart
  | textEnd
  | lineStart (returns : Bool)
  | lineEnd (returns : Bool)
  | word (place : WordPlace) (basic : Bool)
  deriving DecidableEq, Repr, Inhabited

/-- A regular expression. -/
inductive Pattern where
  | empty
  | literal (characters : List Char)
  | oneOf (set : CodeSet)
  | place (test : PlaceTest)
  | repetition (body : Pattern) (least : Nat) (most : Option Nat) (greedy : Bool)
  | group (number : Nat) (body : Pattern)
  | sequence (parts : List Pattern)
  | choice (branches : List Pattern)
  deriving Repr, Inhabited

namespace Pattern

/-! ### Equality -/

mutual

/-- The two patterns are the same. -/
def same : Pattern → Pattern → Bool
  | .empty, .empty => true
  | .literal first, .literal second => first == second
  | .oneOf first, .oneOf second => first == second
  | .place first, .place second => first == second
  | .repetition first least most greedy, .repetition second least' most' greedy' =>
    least == least' && most == most' && greedy == greedy' && same first second
  | .group number first, .group number' second => number == number' && same first second
  | .sequence first, .sequence second => sameAll first second
  | .choice first, .choice second => sameAll first second
  | _, _ => false

/-- The two lists of patterns are the same. -/
def sameAll : List Pattern → List Pattern → Bool
  | [], [] => true
  | first :: rest, second :: rest' => same first second && sameAll rest rest'
  | _, _ => false

end

/-! ### What a pattern takes -/

mutual

/-- The pattern takes no characters. -/
def takesNothing : Pattern → Bool
  | .empty => true
  | .literal characters => characters.isEmpty
  | .oneOf _ => false
  | .place _ => true
  | .repetition body _ most _ => most.isSome && takesNothing body
  | .group _ body => takesNothing body
  | .sequence parts => allTakeNothing parts
  | .choice branches => allTakeNothing branches

/-- None of the patterns takes characters. -/
def allTakeNothing : List Pattern → Bool
  | [] => true
  | pattern :: rest => takesNothing pattern && allTakeNothing rest

end

mutual

/-- The least number of characters that the pattern takes, if it can take any text. -/
def leastLength? : Pattern → Option Nat
  | .empty => some 0
  | .literal characters => some characters.length
  | .oneOf set => if set.isEmpty then none else some 1
  | .place _ => some 0
  | .repetition body least _ _ => (leastLength? body).map (least * ·)
  | .group _ body => leastLength? body
  | .sequence parts => leastSum? parts
  | .choice branches => leastOf? branches

/-- The sum of the least lengths. -/
def leastSum? : List Pattern → Option Nat
  | [] => some 0
  | pattern :: rest => do return (← leastLength? pattern) + (← leastSum? rest)

/-- The least of the least lengths. -/
def leastOf? : List Pattern → Option Nat
  | [] => none
  | [pattern] => leastLength? pattern
  | pattern :: rest => do return min (← leastLength? pattern) (← leastOf? rest)

end

/-- The pattern takes at least one character. -/
def takesSome (pattern : Pattern) : Bool := pattern.leastLength?.any (0 < ·)

/-! ### Where a match begins and ends -/

mutual

/-- A match of the pattern can only begin where the text does. -/
def beginsText : Pattern → Bool
  | .place test => test == .textStart
  | .repetition body least _ _ => 0 < least && beginsText body
  | .group _ body => beginsText body
  | .sequence parts => anyBeginsText parts
  | .choice branches => allBeginText branches
  | _ => false

/-- One of the parts at the front has to stand where the text begins. -/
def anyBeginsText : List Pattern → Bool
  | [] => false
  | part :: rest => beginsText part || (takesNothing part && anyBeginsText rest)

/-- All branches have to stand where the text begins. -/
def allBeginText : List Pattern → Bool
  | [] => true
  | branch :: rest => beginsText branch && allBeginText rest

end

mutual

/-- A match of the pattern can only end where the text does. -/
def endsText : Pattern → Bool
  | .place test => test == .textEnd
  | .repetition body least _ _ => 0 < least && endsText body
  | .group _ body => endsText body
  | .sequence parts => anyEndsText parts
  | .choice branches => allEndText branches
  | _ => false

/-- One of the parts at the end has to stand where the text ends. -/
def anyEndsText : List Pattern → Bool
  | [] => false
  | part :: rest => anyEndsText rest || (allTakeNothing rest && endsText part)

/-- All branches have to stand where the text ends. -/
def allEndText : List Pattern → Bool
  | [] => true
  | branch :: rest => endsText branch && allEndText rest

end

/-! ### Building patterns -/

/-- The pattern that takes one character of a set. -/
def ofSet (set : CodeSet) : Pattern :=
  match set.runs with
  | [run] => if run.low = run.high then .literal [Char.ofNat run.low] else .oneOf set
  | _ => .oneOf set

/-- The parts of a pattern in a sequence. -/
def parts : Pattern → List Pattern
  | .empty => []
  | .sequence parts => parts
  | pattern => [pattern]

/-- A part before others; two literals become one. -/
def before (part : Pattern) (rest : List Pattern) : List Pattern :=
  match part, rest with
  | .literal first, .literal second :: rest => .literal (first ++ second) :: rest
  | _, _ => part :: rest

/-- Patterns one after the other. -/
def inSequence (patterns : List Pattern) : Pattern :=
  match (patterns.flatMap parts).foldr before [] with
  | [] => .empty
  | [part] => part
  | parts => .sequence parts

/-- How many parts the patterns have in common at their beginning. -/
def commonLength : List Pattern → List Pattern → Nat
  | first :: rest, second :: rest' => if same first second then commonLength rest rest' + 1 else 0
  | _, _ => 0

/-- The parts of a pattern that is a sequence. -/
def sequenceParts? : Pattern → Option (List Pattern)
  | .sequence parts => some parts
  | _ => none

/-- The branches of a pattern in a choice. -/
def branches : Pattern → List Pattern
  | .choice branches => branches
  | pattern => [pattern]

/-- The character that a pattern stands for. -/
def character? : Pattern → Option Char
  | .literal [c] => some c
  | _ => none

/-- The set that a pattern is. -/
def set? : Pattern → Option CodeSet
  | .oneOf set => some set
  | _ => none

/-- The parts that branches have in common at their beginning, and what is left of each. -/
def commonStart? (branches : List Pattern) : Option (List Pattern × List (List Pattern)) := do
  match ← branches.mapM sequenceParts? with
  | first :: others =>
    let length := others.foldl (fun length other => min length (commonLength first other))
      first.length
    if length = 0 then none
    else some (first.take length, (first :: others).map (·.drop length))
  | [] => none

/-- One of the patterns, of which parts in common may be taken out so many times. -/
def inChoiceWithin : Nat → List Pattern → Pattern
  | times, patterns =>
    match patterns.flatMap branches with
    | [] => .oneOf .empty
    | [branch] => branch
    | found =>
      match found.mapM character?, found.mapM set?, times, commonStart? found with
      | some characters, _, _, _ => ofSet (.ofCodes (characters.map Char.toNat))
      | none, some sets, _, _ => ofSet (.unions sets)
      | none, none, times + 1, some (start, rests) =>
        inSequence (start ++ [inChoiceWithin times (rests.map inSequence)])
      | none, none, _, _ => .choice found

mutual

/-- How many patterns a pattern consists of. -/
def weight : Pattern → Nat
  | .repetition body _ _ _ => weight body + 1
  | .group _ body => weight body + 1
  | .sequence parts => weights parts + 1
  | .choice branches => weights branches + 1
  | _ => 1

/-- How many patterns the patterns consist of. -/
def weights : List Pattern → Nat
  | [] => 0
  | pattern :: rest => weight pattern + weights rest

end

/-- One of the patterns. -/
def inChoice (patterns : List Pattern) : Pattern := inChoiceWithin (weights patterns) patterns

/-- A pattern repeated. What takes no characters need not be repeated more than once. -/
def repeated (body : Pattern) (least : Nat) (most : Option Nat) (greedy : Bool) : Pattern :=
  let (least, most) :=
    if body.takesNothing then (min least 1, some (min (most.getD 1) 1)) else (least, most)
  if most == some 0 then .empty
  else if least == 1 && most == some 1 then body
  else .repetition body least most greedy

end Pattern

end SchemaAssessment.Regex

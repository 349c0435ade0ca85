/-
How large the machine is that looks for a pattern, and whether it is small enough. A
machine is built for reading a text forward and one for reading it backward. A state
takes room for itself, for each of its transitions and for each of its alternatives.
States that lead on alike are shared within a set of characters, as far as the memory
of such states reaches: it has a fixed number of places, and what comes to a place
later takes it.

A character is one to four bytes long; a run of characters is cut until the bytes of
each part range independently of each other, so that the part is a sequence of byte
ranges.
-/

import Std.Data.HashMap
import SchemaAssessment.Regex.Pattern

namespace SchemaAssessment.Regex

open Unicode (CodeSet)

/-! ### Runs of characters in bytes -/

/-- The bytes from `low` to `high`. -/
structure ByteRange where
  low : Nat
  high : Nat
  deriving DecidableEq, Repr, Inhabited

namespace ByteRange

/-- The bytes of a character. -/
def encode (code : Nat) : List Nat :=
  let follower (rest : Nat) : Nat := 0x80 + rest % 64
  if code < 0x80 then [code]
  else if code < 0x800 then [0xC0 + code / 64, follower code]
  else if code < 0x10000 then [0xE0 + code / 4096, follower (code / 64), follower code]
  else [0xF0 + code / 262144, follower (code / 4096), follower (code / 64), follower code]

/-- The last characters of one, two and three bytes. -/
def lastOfLength : List Nat := [0x7F, 0x7FF, 0xFFFF]

/-- How many characters agree in all bytes but the last one, two and three. -/
def blocks : List Nat := [64, 4096, 262144]

/-- Where a run that begins or ends inside a block is cut: at the end of the block it begins in,
or before the block it ends in. -/
def blockCut? (low high block : Nat) : Option Nat :=
  if low / block = high / block then none
  else if low % block ≠ 0 then some (low / block * block + block - 1)
  else if high % block ≠ block - 1 then some (high / block * block - 1)
  else none

/-- The last character of the first part if a run has to be cut. -/
def cut? (low high : Nat) : Option Nat :=
  match lastOfLength.find? fun last => low ≤ last && last < high with
  | some last => some last
  | none => if high < 0x80 then none else blocks.findSome? (blockCut? low high)

/-- The sequences of byte ranges that a run of characters comes to, in rising order. -/
def sequences (low high : Nat) : List (List ByteRange) :=
  match cut? low high with
  | some last =>
    if low ≤ last ∧ last < high then sequences low last ++ sequences (last + 1) high else []
  | none => [(encode low).zipWith ByteRange.mk (encode high)]
termination_by high - low

end ByteRange

/-! ### Machines -/

/-- A machine that is being built: how many states it has, and the room for what they lead to. -/
structure Machine where
  states : Nat
  extra : Nat
  deriving DecidableEq, Repr, Inhabited

/-- The room that a machine takes, in bytes. -/
def Machine.size (machine : Machine) : Nat := 32 * machine.states + machine.extra

/-- The room that a machine may take, in bytes: ten mebibytes. -/
def largestMachine : Nat := 10485760

/-- The room for one transition. -/
def transitionSize : Nat := 8

/-- The room for one alternative. -/
def alternativeSize : Nat := 4

/-- Building a machine, which ends when it grows too large. -/
abbrev Build := StateT Machine Option

/-- Adds so many states and so much room. The number of the first new state is given back. -/
def grow (states extra : Nat) : Build Nat := fun machine =>
  let grown : Machine := ⟨machine.states + states, machine.extra + extra⟩
  if largestMachine < grown.size then none else some (machine.states, grown)

/-- Adds a state with so many transitions. -/
def addState (transitions : Nat) : Build Nat := grow 1 (transitionSize * transitions)

/-- Adds alternatives to a state. -/
def addAlternatives (count : Nat) : Build Unit := do
  let _ ← grow 0 (alternativeSize * count)

/-- Leads on from the end of what was built, which takes room if it is a state with
alternatives. -/
def leadOn (hasAlternatives : Bool) : Build Unit :=
  if hasAlternatives then addAlternatives 1 else pure ()

/-! ### Shared states -/

/-- A transition from one state to another. -/
structure Transition where
  low : Nat
  high : Nat
  next : Nat
  deriving DecidableEq, Repr, Inhabited

/-- Mixes a number into a hash. -/
def mix (hash : UInt64) (number : Nat) : UInt64 := (hash ^^^ number.toUInt64) * 1099511628211

/-- The hash of some numbers. -/
def hashOf (numbers : List Nat) : Nat := (numbers.foldl mix 14695981039346656037).toNat

/-- States that were built, at the places that the hashes of their transitions give. -/
abbrev Memory (α : Type) := Std.HashMap Nat (α × Nat)

/-- The state that was built for a key, or a new one, which takes its place in the memory. -/
def shared {α : Type} [BEq α] (place : Nat) (key : α) (build : Build Nat) (memory : Memory α) :
    Build (Nat × Memory α) :=
  match (memory.get? place).filter fun entry => entry.1 == key with
  | some entry => pure (entry.2, memory)
  | none => do
    let state ← build
    return (state, memory.insert place (key, state))

/-- Sequences of byte ranges, those with the same first range together. -/
def byFirst : List (List ByteRange) → List (ByteRange × List (List ByteRange))
  | [] => []
  | [] :: rest => byFirst rest
  | (range :: tail) :: rest =>
    match byFirst rest with
    | (next, tails) :: groups =>
      if range == next then (range, tail :: tails) :: groups
      else (range, [tail]) :: (next, tails) :: groups
    | [] => [(range, [tail])]

/-- The places of the memory for reading forward. -/
def forwardPlaces : Nat := 10000

/-- The places of the memory for reading backward. -/
def backwardPlaces : Nat := 1000

/-- The length of the longest character in bytes. -/
def longestCharacter : Nat := 4

/-- Builds the states that take one of some sequences, of at most so many bytes, and then lead to
a target. -/
def buildForward (target : Nat) :
    Nat → List (List ByteRange) → Memory (List Transition) → Build (Nat × Memory (List Transition))
  | 0, _, memory => pure (target, memory)
  | length + 1, sequences, memory => do
    if sequences.all List.isEmpty then return (target, memory)
    let (transitions, memory) ← (byFirst sequences).foldlM
      (fun (transitions, memory) (range, tails) => do
        let (next, memory) ← buildForward target length tails memory
        return ((⟨range.low, range.high, next⟩ : Transition) :: transitions, memory))
      ([], memory)
    let transitions := transitions.reverse
    let numbers := transitions.flatMap fun transition =>
      [transition.low, transition.high, transition.next]
    shared (hashOf numbers % forwardPlaces) transitions (addState transitions.length) memory

/-- Builds the states that take a sequence backward and then lead to a state. -/
def buildBackward (next : Nat) (sequence : List ByteRange) (memory : Memory Transition) :
    Build (Nat × Memory Transition) :=
  sequence.foldlM (fun (next, memory) range =>
    shared (hashOf [next, range.low, range.high] % backwardPlaces)
      (⟨range.low, range.high, next⟩ : Transition) (addState 0) memory) (next, memory)

/-- The sequences of byte ranges of a set. -/
def sequencesOf (set : CodeSet) : List (List ByteRange) :=
  (set.intersection CodeSet.characters).runs.flatMap fun run =>
    ByteRange.sequences run.low run.high

/-- Builds the states for one character of a set. -/
def buildSet (backward : Bool) (set : CodeSet) : Build Unit := do
  if set.runs.all fun run => run.high < 0x80 then
    let _ ← addState 0
    let _ ← addState set.runs.length
  else if backward then
    let _ ← addState 0
    let target ← addState 0
    let sequences := sequencesOf set
    let _ ← sequences.foldlM (fun memory sequence => do
      let (_, memory) ← buildBackward target sequence memory
      addAlternatives 1
      return memory) ∅
  else
    let target ← addState 0
    let _ ← buildForward target longestCharacter (sequencesOf set) ∅

/-! ### Choices between literals -/

/-- The words in the order given, in one list for each time that the empty word is met. An empty
word at the front counts once. -/
def wordChunks (words : List (List Nat)) : List (List (List Nat)) :=
  let words := match words with
    | [] :: rest => [] :: rest.dropWhile List.isEmpty
    | words => words
  words.splitOnP List.isEmpty

/-- How many states a choice between words of at most so many bytes has, and how much room goes
to what they lead to. -/
def wordStates : Nat → List (List Nat) → Nat × Nat
  | 0, _ => (0, 0)
  | length + 1, words =>
    let chunks := wordChunks words
    let filled := (chunks.filter fun chunk => !chunk.isEmpty).length
    let alternatives := filled + (chunks.length - 1)
    chunks.foldl (fun sum chunk =>
      let firsts := (chunk.filterMap List.head?).eraseDups
      let room := if firsts.length < 2 then 0 else transitionSize * firsts.length
      firsts.foldl (fun sum first =>
        let tails := (chunk.filter fun word => word.head? == some first).map List.tail
        if tails.all List.isEmpty then sum
        else
          let inner := wordStates length tails
          (sum.1 + inner.1, sum.2 + inner.2)) (sum.1 + min firsts.length 1, sum.2 + room))
      (1, alternativeSize * alternatives)

/-- The bytes of a literal. -/
def literalBytes (characters : List Char) : List Nat :=
  characters.flatMap fun c => ByteRange.encode c.toNat

/-- The bytes of a pattern that is a literal. -/
def Pattern.literal? : Pattern → Option (List Nat)
  | .literal characters => some (literalBytes characters)
  | _ => none

/-- Builds a choice between words. -/
def buildWords (backward : Bool) (words : List (List Nat)) : Build Unit := do
  let longest := words.foldl (fun longest word => max longest word.length) 0
  let words := if backward then words.map List.reverse else words
  let (states, extra) := wordStates (longest + 1) words
  let _ ← grow (states + 1) extra

/-! ### Patterns -/

/-- Builds a part so many times after another one. A part tells whether it ends in a state with
alternatives. -/
def buildAfter (part : Build Bool) : Nat → Bool → Build Bool
  | 0, last => pure last
  | count + 1, last => do
    let next ← part
    leadOn last
    buildAfter part count next

/-- Builds a part exactly so many times. -/
def buildExactly (part : Build Bool) : Nat → Build Bool
  | 0 => do
    let _ ← addState 0
    return false
  | count + 1 => do buildAfter part count (← part)

/-- Builds a part that may be left out so many times, each time after the one before. -/
def buildOptional (part : Build Bool) : Nat → Bool → Build Bool
  | 0, last => pure last
  | count + 1, last => do
    let _ ← addState 0
    let next ← part
    leadOn last
    addAlternatives 2
    buildOptional part count next

/-- Builds a part repeated without an upper bound. -/
def buildEndless (takesSome : Bool) (part : Build Bool) : Nat → Build Bool
  | 0 => do
    if takesSome then
      let _ ← addState 0
      let last ← part
      addAlternatives 1
      leadOn last
      return true
    else
      let last ← part
      leadOn last
      let _ ← grow 3 (alternativeSize * 4)
      return false
  | 1 => do
    let last ← part
    let _ ← addState 0
    leadOn last
    addAlternatives 1
    return true
  | least + 2 => do
    let front ← buildExactly part (least + 1)
    let last ← part
    let _ ← addState 0
    leadOn front
    leadOn last
    addAlternatives 1
    return true

/-- Builds a part repeated at least and at most so many times. -/
def buildBounded (part : Build Bool) (least most : Nat) : Build Bool := do
  if least == 0 && most == 1 then
    let _ ← addState 0
    let last ← part
    let _ ← addState 0
    addAlternatives 2
    leadOn last
    return false
  else if least == most then buildExactly part least
  else
    let front ← buildExactly part least
    let _ ← addState 0
    let last ← buildOptional part (most - least) front
    leadOn last
    return false

mutual

/-- Builds a pattern, and tells whether it ends in a state with alternatives. Groups are noted on
the way forward alone. -/
def build (backward : Bool) : Pattern → Build Bool
  | .empty => do
    let _ ← addState 0
    return false
  | .literal characters => do
    let _ ← grow (literalBytes characters).length 0
    return false
  | .oneOf set => do
    buildSet backward set
    return false
  | .place _ => do
    let _ ← addState 0
    return false
  | .repetition body least most _ =>
    match most with
    | none => buildEndless body.takesSome (build backward body) least
    | some most => buildBounded (build backward body) least most
  | .group _ body => do
    if backward then build backward body
    else
      let _ ← addState 0
      let last ← build backward body
      let _ ← addState 0
      leadOn last
      return false
  | .sequence parts => do
    if backward then return (← buildBack parts).getD false
    else return (← buildOn none parts).getD false
  | .choice branches => do
    match branches.mapM Pattern.literal? with
    | some words => buildWords backward words
    | none => buildBranches backward branches
    return false

/-- Builds patterns one after the other. -/
def buildOn (last : Option Bool) : List Pattern → Build (Option Bool)
  | [] => pure last
  | pattern :: rest => do
    let next ← build false pattern
    leadOn (last.getD false)
    buildOn (some next) rest

/-- Builds patterns one after the other, from the last one. -/
def buildBack : List Pattern → Build (Option Bool)
  | [] => pure none
  | pattern :: rest => do
    let last ← buildBack rest
    let next ← build true pattern
    leadOn (last.getD false)
    return some next

/-- Builds the branches of a choice. The state that leads to all of them comes after the second. -/
def buildBranches (backward : Bool) : List Pattern → Build Unit
  | first :: second :: rest => do
    let firstLast ← build backward first
    let secondLast ← build backward second
    let _ ← grow 2 (alternativeSize * 2)
    leadOn firstLast
    leadOn secondLast
    buildMore backward rest
  | _ => pure ()

/-- Builds further branches of a choice. -/
def buildMore (backward : Bool) : List Pattern → Build Unit
  | [] => pure ()
  | branch :: rest => do
    let last ← build backward branch
    addAlternatives 1
    leadOn last
    buildMore backward rest

end

/-- Builds a machine. A match that may begin anywhere needs states that pass over what comes
before it. The states for the whole match come last. -/
def buildMachine (backward : Bool) (pattern : Pattern) : Build Unit := do
  let anchored := if backward then pattern.endsText else pattern.beginsText
  if anchored then
    let _ ← addState 0
  else
    let _ ← grow 3 (transitionSize + alternativeSize)
  let last ← build backward (if backward then pattern else .group 0 pattern)
  let _ ← addState 0
  leadOn last
  leadOn !anchored

/-- Both machines for the pattern are small enough. -/
def Pattern.isSmall (pattern : Pattern) : Bool :=
  ((buildMachine false pattern).run ⟨0, 0⟩).isSome &&
    ((buildMachine true pattern).run ⟨0, 0⟩).isSome

end SchemaAssessment.Regex

/-
Whether a text contains a match of a pattern. A pattern is read as a map from the
places where a match may begin to the places where one may end; a set of places is
a list without repetitions. Repetition follows the map as often as it brings new
places, so no text can make the search run for long.
-/

import SchemaAssessment.Regex.Class

namespace SchemaAssessment.Regex

/-- The places of the second list that are not in the first, each once. -/
def newPlaces (places more : List Nat) : List Nat :=
  more.foldl (fun found place =>
    if places.contains place || found.contains place then found else place :: found) []

/-- The places of either list. -/
def addPlaces (places more : List Nat) : List Nat := newPlaces places more ++ places

/-- The character before a place. -/
def before? (text : Array Char) (place : Nat) : Option Char :=
  if place = 0 then none else text[place - 1]?

/-- There is a word character. -/
def isWord (basic : Bool) (c : Option Char) : Bool :=
  c.any (if basic then basicWordCharacters else wordCharacters).has

/-- The condition on words holds, given whether word characters stand before and after. -/
def WordPlace.holds (before after : Bool) : WordPlace → Bool
  | .boundary => before != after
  | .noBoundary => before == after
  | .start => !before && after
  | .finish => before && !after
  | .startHalf => !before
  | .finishHalf => !after

/-- The condition holds at the place. A carriage return and a line feed after it are one end of a
line. -/
def PlaceTest.holds (text : Array Char) (place : Nat) : PlaceTest → Bool
  | .textStart => place == 0
  | .textEnd => place == text.size
  | .lineStart returns =>
    let before := before? text place
    place == 0 || before == some '\n' ||
      (returns && before == some '\r' && text[place]? != some '\n')
  | .lineEnd returns =>
    let after := text[place]?
    place == text.size || (returns && after == some '\r') ||
      (after == some '\n' && !(returns && before? text place == some '\r'))
  | .word test basic => test.holds (isWord basic (before? text place)) (isWord basic text[place]?)

/-- The place after some characters, if they stand at a place. -/
def passAll (text : Array Char) : List Char → Nat → Option Nat
  | [], place => some place
  | c :: rest, place => if text[place]? == some c then passAll text rest (place + 1) else none

/-- Follows a map exactly so many times. Places that lead to themselves alone stay as they are,
however often the map is followed. -/
def follow (map : List Nat → List Nat) : Nat → List Nat → List Nat
  | 0, places => places
  | count + 1, places =>
    let next := map places
    if next.length = places.length && (newPlaces places next).isEmpty then places
    else follow map count next

/-- The places reached by following a map at most so many times, given those reached so far and
among them those that were reached last. -/
def reach (map : List Nat → List Nat) : Nat → List Nat → List Nat → List Nat
  | 0, _, places => places
  | count + 1, last, places =>
    let found := newPlaces places (map last)
    if found.isEmpty then places else reach map count found (found ++ places)

namespace Pattern

mutual

/-- The places where a match that begins at one of the given places may end. -/
def ends (text : Array Char) : Pattern → List Nat → List Nat
  | .empty, places => places
  | .literal characters, places => places.filterMap (passAll text characters)
  | .oneOf set, places =>
    places.filterMap fun place => if text[place]?.any set.has then some (place + 1) else none
  | .place test, places => places.filter fun place => test.holds text place
  | .repetition body least most _, places =>
    let needed := follow (ends text body) least places
    match most with
    | none => reach (ends text body) (text.size + 1) needed needed
    | some most => reach (ends text body) (most - least) needed needed
  | .group _ body, places => ends text body places
  | .sequence parts, places => endsInTurn text parts places
  | .choice branches, places => endsOfAny text branches places

/-- The places where matches of the patterns one after the other may end. -/
def endsInTurn (text : Array Char) : List Pattern → List Nat → List Nat
  | [], places => places
  | pattern :: rest, places => endsInTurn text rest (ends text pattern places)

/-- The places where a match of one of the patterns may end. -/
def endsOfAny (text : Array Char) : List Pattern → List Nat → List Nat
  | [], _ => []
  | pattern :: rest, places => addPlaces (ends text pattern places) (endsOfAny text rest places)

end

/-- Some part of the text matches the pattern. -/
def occursIn (pattern : Pattern) (text : String) : Bool :=
  let characters := text.toList.toArray
  !(pattern.ends characters (List.range (characters.size + 1))).isEmpty

end Pattern

end SchemaAssessment.Regex

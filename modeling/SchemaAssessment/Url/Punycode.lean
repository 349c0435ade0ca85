/-
Labels of host names in the basic alphabet. A label with other characters is written
as its basic characters, a hyphen, and the places and code points of the rest as
differences in a number system whose digits adapt to what was written before.
-/

namespace SchemaAssessment.Url.Punycode

/-- The digit that stands for a number below 36: a letter, then a figure. -/
def digitChar (digit : Nat) : Char :=
  if digit < 26 then Char.ofNat (0x61 + digit) else Char.ofNat (0x30 + digit - 26)

/-- The number that a digit of either case stands for. -/
def digitValue? (c : Char) : Option Nat :=
  if 'a' ≤ c && c ≤ 'z' then some (c.toNat - 0x61)
  else if 'A' ≤ c && c ≤ 'Z' then some (c.toNat - 0x41)
  else if '0' ≤ c && c ≤ '9' then some (c.toNat - 0x30 + 26)
  else none

/-- The least digit that does not end a number at this place. -/
def threshold (place bias : Nat) : Nat :=
  if place ≤ bias then 1 else if bias + 26 ≤ place then 26 else place - bias

theorem threshold_pos (place bias : Nat) : 1 ≤ threshold place bias := by
  unfold threshold
  split
  · omega
  · split <;> omega

/-- Divides a difference by 35 while it is large, counting places. -/
def shrink (difference places : Nat) : Nat × Nat :=
  if 455 < difference then shrink (difference / 35) (places + 36) else (difference, places)
termination_by difference
decreasing_by exact Nat.div_lt_self (by omega) (by omega)

/-- The bias after a difference was written, from the number of characters handled so far. -/
def adapt (difference count : Nat) (first : Bool) : Nat :=
  let damped := if first then difference / 700 else difference / 2
  let (rest, places) := shrink (damped + damped / count) 0
  places + 36 * rest / (rest + 38)

/-! ### Writing -/

/-- The digits of a difference from a place on. -/
def writeNumber (bias place number : Nat) : List Char :=
  let least := threshold place bias
  if number < least then [digitChar number]
  else digitChar (least + (number - least) % (36 - least))
    :: writeNumber bias (place + 36) ((number - least) / (36 - least))
termination_by number
decreasing_by
  have positive := threshold_pos place bias
  calc (number - threshold place bias) / (36 - threshold place bias)
      ≤ number - threshold place bias := Nat.div_le_self _ _
    _ < number := by omega

/-- What has been written: the digits, the difference so far, the bias, and how many characters
are handled. -/
structure Writing where
  written : List Char
  difference : Nat
  bias : Nat
  handled : Nat
  deriving Repr, Inhabited

/-- Passes one character of the label while a code point is handled. -/
def Writing.pass (basic code : Nat) (state : Writing) (c : Char) : Writing :=
  if c.toNat < code then { state with difference := state.difference + 1 }
  else if c.toNat == code then
    { written := state.written ++ writeNumber state.bias 36 state.difference
      difference := 0
      bias := adapt state.difference (state.handled + 1) (state.handled == basic)
      handled := state.handled + 1 }
  else state

/-- Handles the given code points, which rise from `next` on. -/
def Writing.run (label : List Char) (basic : Nat) : List Nat → Nat → Writing → Writing
  | [], _, state => state
  | code :: later, next, state =>
    let moved := { state with difference := state.difference + (code - next) * (state.handled + 1) }
    let passed := label.foldl (Writing.pass basic code) moved
    Writing.run label basic later (code + 1) { passed with difference := passed.difference + 1 }

/-- The characters of the basic alphabet. -/
def isBasic (c : Char) : Bool := c.toNat < 128

/-- The written form of a label. -/
def encode (label : List Char) : List Char :=
  let basic := label.filter isBasic
  let codes := (((label.filter fun c => !isBasic c).map Char.toNat).mergeSort (· ≤ ·)).eraseDups
  let state := Writing.run label basic.length codes 128 ⟨[], 0, 72, basic.length⟩
  (if basic.isEmpty then [] else basic ++ ['-']) ++ state.written

/-! ### Reading -/

/-- What has been read: the characters, the code point and index of the last insertion, the
bias, and the number in progress with the weight and place of its next digit. -/
structure Reading where
  label : List Char
  code : Nat
  index : Nat
  bias : Nat
  total : Nat
  weight : Nat
  place : Nat
  deriving Repr, Inhabited

/-- Takes one digit; the last digit of a number inserts a character. -/
def Reading.take? (state : Reading) (c : Char) : Option Reading := do
  let digit ← digitValue? c
  let total := state.total + digit * state.weight
  let least := threshold state.place state.bias
  if digit < least then
    let length := state.label.length + 1
    let moved := state.index + total
    let code := state.code + moved / length
    let index := moved % length
    if code < 0xD800 || (0xDFFF < code && code < 0x110000) then
      some { label := state.label.take index ++ Char.ofNat code :: state.label.drop index
             code := code
             index := index + 1
             bias := adapt total length (state.index == 0 && state.code == 128)
             total := 0
             weight := 1
             place := 36 }
    else none
  else some { state with total, weight := state.weight * (36 - least), place := state.place + 36 }

/-- The label of a written form. -/
def decode? (text : List Char) : Option (List Char) := do
  let tail := (text.reverse.takeWhile (· != '-')).reverse
  let basic := if text.contains '-' then text.take (text.length - tail.length - 1) else []
  let start : Reading := ⟨basic, 128, 0, 72, 0, 1, 36⟩
  let state ← tail.foldlM Reading.take? start
  if state.total = 0 && state.weight = 1 && basic.all isBasic then some state.label else none

end SchemaAssessment.Url.Punycode

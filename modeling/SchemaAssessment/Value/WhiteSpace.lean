/-
What a type does with the blanks of a text before it is read: nothing, make each of
them a plain space, or leave one space between the words and none at the ends.
-/

import SchemaAssessment.Text.Blank

namespace SchemaAssessment

/-- The modes of white space. -/
inductive WhiteSpace where
  | preserve
  | replace
  | collapse
  deriving DecidableEq, Repr, Inhabited

namespace WhiteSpace

/-- The names of the modes. -/
def names : List (String × WhiteSpace) := [
  ("preserve", .preserve), ("replace", .replace), ("collapse", .collapse)]

/-- The mode with a name. -/
def ofName? (name : String) : Option WhiteSpace := names.lookup name

/-- The name of a mode. -/
def name : WhiteSpace → String
  | .preserve => "preserve"
  | .replace => "replace"
  | .collapse => "collapse"

/-- A mode is found under its name. -/
@[simp] theorem ofName?_name (mode : WhiteSpace) : ofName? mode.name = some mode := by
  cases mode <;> rfl

/-- The words between markup blanks. -/
def markupWords (text : String) : List String :=
  (Text.runs Text.isMarkupBlank text.toList).map String.ofList

/-- How far a text has been collapsed: what is kept of its characters, the last one first, and
whether a space stands right before the next one. The beginning of a text counts as a space, so
that no blank is kept there. -/
structure Collapsing where
  kept : List Char := []
  afterSpace : Bool := true
  deriving DecidableEq, Repr

namespace Collapsing

/-- One character more. Of blanks that come together the first is kept, as a space. -/
def push (state : Collapsing) (c : Char) : Collapsing :=
  if Text.isMarkupBlank c then
    if state.afterSpace then state else { kept := ' ' :: state.kept, afterSpace := true }
  else { kept := c :: state.kept, afterSpace := false }

theorem push_of_unblank {state : Collapsing} {c : Char} (unblank : Text.isMarkupBlank c = false) :
    state.push c = { kept := c :: state.kept, afterSpace := false } :=
  if_neg (Bool.eq_false_iff.mp unblank)

theorem push_of_afterSpace {state : Collapsing} {c : Char} (blank : Text.isMarkupBlank c = true)
    (afterSpace : state.afterSpace = true) : state.push c = state := by
  rw [push, if_pos blank, if_pos afterSpace]

theorem push_of_inWord {state : Collapsing} {c : Char} (blank : Text.isMarkupBlank c = true)
    (inWord : state.afterSpace = false) :
    state.push c = { kept := ' ' :: state.kept, afterSpace := true } := by
  rw [push, if_pos blank, if_neg (Bool.eq_false_iff.mp inWord)]

/-- The characters at the end of the text, where a last space is dropped. -/
def chars (state : Collapsing) : List Char :=
  let chars := state.kept.reverse
  if chars.getLast? == some ' ' then chars.dropLast else chars

end Collapsing

/-- A text as a mode leaves it. -/
def normalize (mode : WhiteSpace) (text : String) : String :=
  match mode with
  | .preserve => text
  | .replace => text.map fun c => if Text.isMarkupBlank c then ' ' else c
  | .collapse => String.ofList (text.toList.foldl Collapsing.push {}).chars

end WhiteSpace

end SchemaAssessment

/-
Values that are given to whole runs of code points. The runs rise, so the one that
holds a code point is found by halving.
-/

import SchemaAssessment.Unicode.CodeSet

namespace SchemaAssessment.Unicode

/-- Runs of code points in rising order, each with the value of its members. -/
structure CodeMap (α : Type) where
  spans : Array (Run × α)
  deriving Repr, Inhabited

namespace CodeMap

variable {α : Type}

/-- The last span between `low` and `high` that starts at or before a code point. -/
def spanBefore (map : CodeMap α) (code low high : Nat) : Option (Run × α) :=
  if low + 1 < high then
    let middle := (low + high) / 2
    match map.spans[middle]? with
    | some (run, _) =>
      if run.low ≤ code then map.spanBefore code middle high else map.spanBefore code low middle
    | none => none
  else map.spans[low]?
termination_by high - low

/-- The span that holds a code point. -/
def span? (map : CodeMap α) (code : Nat) : Option (Run × α) :=
  (map.spanBefore code 0 map.spans.size).filter fun (run, _) => run.contains code

/-- The value of a code point. -/
def value? (map : CodeMap α) (code : Nat) : Option α := (map.span? code).map (·.2)

/-- The span that is found holds the code point. -/
theorem contains_of_span? {map : CodeMap α} {code : Nat} {run : Run} {value : α}
    (found : map.span? code = some (run, value)) : run.contains code = true := by
  unfold span? at found
  exact (Option.filter_eq_some_iff.mp found).2

/-- The members of the runs with a value of some kind. -/
def setWhere (map : CodeMap α) (isWanted : α → Bool) : CodeSet :=
  .ofRuns (map.spans.toList.filterMap fun (run, value) => if isWanted value then some run else none)

end CodeMap

end SchemaAssessment.Unicode

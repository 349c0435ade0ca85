/-
Sets of code points. A set is kept as its runs, which rise and leave at least one
code point between each other, so that equal sets are equal values. Every operation
collects runs in any order and then joins those that overlap or touch.
-/

namespace SchemaAssessment.Unicode

/-- The code points from `low` to `high`. -/
structure Run where
  low : Nat
  high : Nat
  deriving DecidableEq, Repr, Inhabited

/-- The code point lies in the run. -/
def Run.contains (run : Run) (code : Nat) : Bool := run.low ≤ code && code ≤ run.high

/-- The first run ends before the second begins, with a gap between them. -/
def Run.isApart (first second : Run) : Prop := first.high + 1 < second.low

/-! ### Joining runs -/

/-- Joins runs that overlap or touch. The runs are ordered by their first code point. -/
def joinRuns : Run → List Run → List Run
  | current, [] => [current]
  | current, next :: rest =>
    if next.low ≤ current.high + 1 then joinRuns ⟨current.low, max current.high next.high⟩ rest
    else current :: joinRuns next rest

/-- What comes out of joining begins where the runs begin. -/
theorem low_le_of_mem_joinRuns {current run : Run} {rest : List Run}
    (rising : (current :: rest).Pairwise fun a b => a.low ≤ b.low)
    (member : run ∈ joinRuns current rest) : current.low ≤ run.low := by
  induction rest generalizing current with
  | nil =>
    rw [joinRuns, List.mem_singleton] at member
    exact Nat.le_of_eq (congrArg Run.low member.symm)
  | cons next rest inductionHypothesis =>
    obtain ⟨above, tail⟩ := List.pairwise_cons.mp rising
    rw [joinRuns] at member
    split at member
    · have joined : (⟨current.low, max current.high next.high⟩ :: rest : List Run).Pairwise
          fun a b => a.low ≤ b.low :=
        List.pairwise_cons.mpr ⟨fun other inside => above other (List.mem_cons_of_mem _ inside),
          (List.pairwise_cons.mp tail).2⟩
      have bound := inductionHypothesis joined member
      exact bound
    · rcases List.mem_cons.mp member with equal | inside
      · exact Nat.le_of_eq (congrArg Run.low equal.symm)
      · exact Nat.le_trans (above next List.mem_cons_self) (inductionHypothesis tail inside)

/-- What comes out of joining is apart. -/
theorem joinRuns_isApart {current : Run} {rest : List Run}
    (rising : (current :: rest).Pairwise fun a b => a.low ≤ b.low) :
    (joinRuns current rest).Pairwise Run.isApart := by
  induction rest generalizing current with
  | nil => exact List.pairwise_singleton _ _
  | cons next rest inductionHypothesis =>
    obtain ⟨above, tail⟩ := List.pairwise_cons.mp rising
    rw [joinRuns]
    split
    · refine inductionHypothesis (List.pairwise_cons.mpr ⟨?_, (List.pairwise_cons.mp tail).2⟩)
      exact fun other inside => above other (List.mem_cons_of_mem _ inside)
    · next gap =>
      refine List.pairwise_cons.mpr ⟨fun other inside => ?_, inductionHypothesis tail⟩
      exact Nat.lt_of_lt_of_le (Nat.lt_of_not_le gap) (low_le_of_mem_joinRuns tail inside)

/-- The runs in the order of their first code points, joined. -/
def joinAll (runs : List Run) : List Run :=
  match runs.mergeSort (fun a b => a.low ≤ b.low) with
  | [] => []
  | first :: rest => joinRuns first rest

/-- However the runs are given, what comes out of joining them is apart. -/
theorem joinAll_isApart (runs : List Run) : (joinAll runs).Pairwise Run.isApart := by
  have rising : (runs.mergeSort fun a b => decide (a.low ≤ b.low)).Pairwise
      fun a b => decide (a.low ≤ b.low) = true :=
    List.pairwise_mergeSort
      (fun a b c first second => by
        simp only [decide_eq_true_eq] at first second ⊢
        exact Nat.le_trans first second)
      (fun a b => by
        simp only [Bool.or_eq_true, decide_eq_true_eq]
        exact Nat.le_total a.low b.low) runs
  unfold joinAll
  split
  · exact List.Pairwise.nil
  · next first rest equal =>
    rw [equal] at rising
    exact joinRuns_isApart (rising.imp fun below => by simpa using below)

/-! ### Sets -/

/-- A set of code points. -/
structure CodeSet where
  runs : List Run
  apart : runs.Pairwise Run.isApart
  deriving DecidableEq

namespace CodeSet

/-- The set of the code points in any of the runs. -/
def ofRuns (runs : List Run) : CodeSet := ⟨joinAll runs, joinAll_isApart runs⟩

/-- The set without members. -/
def empty : CodeSet := ⟨[], List.Pairwise.nil⟩

instance : Inhabited CodeSet := ⟨empty⟩

instance : Repr CodeSet := ⟨fun set precedence => reprPrec set.runs precedence⟩

/-- The set of one code point. -/
def single (code : Nat) : CodeSet := ofRuns [⟨code, code⟩]

/-- The set of the code points from one to another. -/
def range (low high : Nat) : CodeSet := ofRuns [⟨low, high⟩]

/-- The set of some code points. -/
def ofCodes (codes : List Nat) : CodeSet := ofRuns (codes.map fun code => ⟨code, code⟩)

/-- All code points that are characters. -/
def characters : CodeSet := ofRuns [⟨0, 0xD7FF⟩, ⟨0xE000, 0x10FFFF⟩]

/-- The set has no members. -/
def isEmpty (set : CodeSet) : Bool := set.runs.isEmpty

/-- Some run has the code point; the search ends at the first run that lies above it. -/
def runsContain : List Run → Nat → Bool
  | [], _ => false
  | run :: rest, code =>
    if code < run.low then false else code ≤ run.high || runsContain rest code

/-- The code point is a member. -/
def contains (set : CodeSet) (code : Nat) : Bool := runsContain set.runs code

/-- The character is a member. -/
def has (set : CodeSet) (c : Char) : Bool := set.contains c.toNat

/-- The members of both sets together. -/
def union (first second : CodeSet) : CodeSet := ofRuns (first.runs ++ second.runs)

/-- The members of some sets together. -/
def unions (sets : List CodeSet) : CodeSet := ofRuns (sets.flatMap (·.runs))

/-- What is left of a run without the runs of a set. -/
def withoutRuns (run : Run) : List Run → List Run
  | [] => [run]
  | cut :: rest =>
    if cut.high < run.low then withoutRuns run rest
    else if run.high < cut.low then [run]
    else
      (if run.low < cut.low then [⟨run.low, cut.low - 1⟩] else []) ++
        (if cut.high < run.high then withoutRuns ⟨cut.high + 1, run.high⟩ rest else [])

/-- The members of the first set that are not in the second. -/
def difference (first second : CodeSet) : CodeSet :=
  ofRuns (first.runs.flatMap fun run => withoutRuns run second.runs)

/-- The part that a run has in common with the runs of a set. -/
def commonRuns (run : Run) (runs : List Run) : List Run :=
  runs.filterMap fun other =>
    let common : Run := ⟨max run.low other.low, min run.high other.high⟩
    if common.low ≤ common.high then some common else none

/-- The common members of two sets. -/
def intersection (first second : CodeSet) : CodeSet :=
  ofRuns (first.runs.flatMap fun run => commonRuns run second.runs)

/-- The members of just one of two sets. -/
def symmetricDifference (first second : CodeSet) : CodeSet :=
  (first.difference second).union (second.difference first)

/-- The characters that are no members. -/
def complement (set : CodeSet) : CodeSet := characters.difference set

/-! ### Tables -/

/-- Reads the numbers of a table. They are written in base 26, the last digit of each as a small
letter and those before it as capitals. -/
def numbers (lines : List String) : List Nat :=
  let step (state : Nat × List Nat) (c : Char) : Nat × List Nat :=
    if c.isUpper then (state.1 * 26 + (c.toNat - 'A'.toNat), state.2)
    else (0, (state.1 * 26 + (c.toNat - 'a'.toNat)) :: state.2)
  ((lines.foldl (fun state line => line.toList.foldl step state) (0, [])).2).reverse

/-- Runs from the place `next` on, each given by the code points left out before it and by how
many it has besides its first. -/
def runsFrom (next : Nat) : List Nat → List Run
  | skipped :: more :: rest =>
    ⟨next + skipped, next + skipped + more⟩ :: runsFrom (next + skipped + more + 1) rest
  | _ => []

/-- The set that a table of runs gives. -/
def ofTable (lines : List String) : CodeSet := ofRuns (runsFrom 0 (numbers lines))

end CodeSet

end SchemaAssessment.Unicode

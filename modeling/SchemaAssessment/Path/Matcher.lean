/-
Following a path while a document goes by. A matcher is given every start tag from
that of its context element on, and every end tag. For each open element it keeps,
per alternative, how many steps have been taken on the way there; an alternative
selects an element when all its steps are taken, and an attribute when all but its
last, attribute, step are.
-/

import SchemaAssessment.Path.Basic

namespace SchemaAssessment

/-- What a path selects on one start tag: the element itself, and attributes by their place. -/
structure Selection where
  element : Bool
  attributes : List Nat
  deriving DecidableEq, Repr, Inhabited

/-- Nothing is selected. -/
def Selection.isEmpty (selection : Selection) : Bool :=
  !selection.element && selection.attributes.isEmpty

namespace LocationPath

/-- The numbers of steps that may be taken when some have been and the given steps are next: steps
that stay where they are take no tag. -/
def stayFrom (taken : Nat) : List Step → List Nat
  | [] => [taken]
  | step :: rest => if step.axis == .self then taken :: stayFrom (taken + 1) rest else [taken]

/-- The numbers of steps that may be taken without a further tag. -/
def settle (path : LocationPath) (reached : List Nat) : List Nat :=
  (reached.flatMap fun taken => stayFrom taken (path.steps.drop taken)).eraseDups

/-- The numbers of steps taken at the context element. -/
def atContext (path : LocationPath) : List Nat := path.settle [0]

/-- The steps that a child takes beyond those taken at its parent. -/
def advance (path : LocationPath) (name : ExpandedName) (taken : Nat) : List Nat :=
  let waiting := if taken = 0 && path.isDeep then [0] else []
  match path.steps[taken]? with
  | some step =>
    if step.axis == .child && step.test.holds name then waiting ++ [taken + 1] else waiting
  | none => waiting

/-- The numbers of steps taken at a child with the given name. -/
def atChild (path : LocationPath) (name : ExpandedName) (reached : List Nat) : List Nat :=
  path.settle (reached.flatMap (path.advance name))

/-- All steps are taken. -/
def selects (path : LocationPath) (reached : List Nat) : Bool := reached.contains path.steps.length

/-- The places of the attributes that are selected. -/
def selectedAttributes (path : LocationPath) (reached : List Nat) (attributes : List ExpandedName) :
    List Nat :=
  match path.attributeTest? with
  | some test =>
    if reached.contains (path.steps.length - 1) then
      (attributes.zipIdx.filter fun (name, _) => test.holds name).map Prod.snd
    else []
  | none => []

end LocationPath

/-- An open element as a matcher sees it: the steps taken by each alternative, and whether the
element was selected. -/
structure MatcherLevel where
  reached : List (List Nat)
  selected : Bool
  deriving DecidableEq, Repr, Inhabited

/-- A path with the open elements since its context element, innermost first. -/
structure Matcher where
  path : IdentityPath
  levels : List MatcherLevel
  deriving DecidableEq, Repr, Inhabited

namespace Matcher

/-- A matcher that waits for its context element. -/
def ofPath (path : IdentityPath) : Matcher := ⟨path, []⟩

/-- The number of open elements. -/
def depth (matcher : Matcher) : Nat := matcher.levels.length

/-- The steps that each alternative takes at the next element. -/
def nextReached (matcher : Matcher) (name : ExpandedName) : List (List Nat) :=
  match matcher.levels with
  | [] => matcher.path.alternatives.map LocationPath.atContext
  | parent :: _ =>
    matcher.path.alternatives.zipWith (fun path reached => path.atChild name reached) parent.reached

/-- A start tag. -/
def start (matcher : Matcher) (name : ExpandedName) (attributes : List ExpandedName) :
    Matcher × Selection :=
  let reached := matcher.nextReached name
  let paths := matcher.path.alternatives.zip reached
  let element := paths.any fun (path, reached) => path.selects reached
  let selected := (paths.flatMap fun (path, reached) =>
    path.selectedAttributes reached attributes).eraseDups
  ({ matcher with levels := ⟨reached, element⟩ :: matcher.levels }, ⟨element, selected⟩)

/-- An end tag, and whether the element that it closes was selected. -/
def finish (matcher : Matcher) : Matcher × Bool :=
  match matcher.levels with
  | [] => (matcher, false)
  | level :: outer => ({ matcher with levels := outer }, level.selected)

/-- An end tag takes back the start tag before it and answers alike. -/
theorem finish_start (matcher : Matcher) (name : ExpandedName) (attributes : List ExpandedName) :
    (matcher.start name attributes).1.finish
      = (matcher, (matcher.start name attributes).2.element) := rfl

end Matcher

end SchemaAssessment

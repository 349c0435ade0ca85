/-
Content models: what a group allows as the children of an element, one child after
the other. A group is turned into a table of places, and its state is the set of
places that may take the next child. An unordered group of elements is counted
instead, and its state is how often each element has been seen. A child that both
an element and a wildcard would take is taken by the element.
-/

import SchemaAssessment.Content.Expression

namespace SchemaAssessment

/-- A place of a content model: what it takes, and what is reached behind it. -/
structure Place (τ : Type) where
  leaf : Leaf τ
  next : Reach
  deriving Repr, Inhabited

/-- How a content model decides. -/
inductive Decision (τ : Type) where
  | places (table : Array (Place τ)) (start : Reach)
  | counted (members : List (τ × Occurs)) (mayBeLeftOut : Bool)
  deriving Repr, Inhabited

/-- A content model, with its description. -/
structure ContentModel (τ : Type) where
  description : String
  decision : Decision τ
  deriving Repr, Inhabited

/-- The state of a content model. -/
inductive ContentState where
  | reached (reach : Reach)
  | counts (counts : List Nat)
  deriving DecidableEq, Repr, Inhabited

/-- What took a child. -/
inductive Taken (δ : Type) where
  | element (declaration : δ)
  | wildcard (wildcard : Wildcard)
  deriving Repr, Inhabited

namespace ContentModel

variable {τ δ : Type}

/-! ### From groups -/

/-- The elements of the particles with their bounds, if all particles are elements. -/
def members? : List (Particle τ) → Option (List (τ × Occurs))
  | [] => some []
  | .element term occurs :: rest => (members? rest).map ((term, occurs) :: ·)
  | _ :: _ => none

/-- The decision by places for an expression. -/
def ofExpression (expression : Expression τ) : Decision τ :=
  let places := (expression.leaves.zip (expression.follows 0 .ending)).map fun place =>
    (⟨place.1, place.2⟩ : Place τ)
  .places places.toArray (expression.before 0 .ending)

/-- The elements to be counted, if the group is an unordered one of elements alone. -/
def counted? (group : Group τ) : Option (List (τ × Occurs)) :=
  if group.compositor == .all && !group.particles.isEmpty then members? group.particles else none

/-- The content model of a group. The greatest number of an unordered group means nothing when
its elements are counted. -/
def ofGroup (label : τ → String) (group : Group τ) : ContentModel τ where
  description := group.text label
  decision := match counted? group with
    | some members => .counted members group.occurs.isEmptiable
    | none => ofExpression group.expression

/-- The state before the first child. -/
def start (model : ContentModel τ) : ContentState :=
  match model.decision with
  | .places _ start => .reached start
  | .counted members _ => .counts (List.replicate members.length 0)

/-! ### Children -/

/-- What a leaf makes of a child: the declaration of an element, or the wildcard. -/
def leafTakes (takes : τ → Option δ) (space : Option String) : Leaf τ → Option (Taken δ)
  | .element term => (takes term).map .element
  | .wildcard wildcard => if wildcard.allows space then some (.wildcard wildcard) else none

/-- The matches at some places in order: what took the child, and what is reached behind. -/
def matchesAt (takes : τ → Option δ) (space : Option String) (table : Array (Place τ))
    (places : List Nat) : List (Taken δ × Reach) :=
  places.filterMap fun index => do
    let place ← table[index]?
    let taken ← leafTakes takes space place.leaf
    return (taken, place.next)

/-- The match is that of an element. -/
def isElement (found : Taken δ × Reach) : Bool :=
  match found.1 with
  | .element _ => true
  | .wildcard _ => false

/-- The first of some matches, and all that is reached behind them. -/
def combine : List (Taken δ × Reach) → Option (Reach × Taken δ)
  | [] => none
  | found :: others => some (others.foldl (fun reach other => reach.union other.2) found.2, found.1)

/-- Counts a child at the first member that takes it and may have one more. -/
def count (takes : τ → Option δ) :
    List (τ × Occurs) → List Nat → Option (List Nat × Taken δ)
  | (term, occurs) :: members, seen :: counts =>
    match if occurs.isOver seen then none else takes term with
    | some declaration => some ((seen + 1) :: counts, .element declaration)
    | none => (count takes members counts).map fun (counts, taken) => (seen :: counts, taken)
  | _, _ => none

/-- The state after a child, and what took it; nothing if the child is not allowed here. A
declaration for a child of the given namespace is found by `takes`. -/
def step (model : ContentModel τ) (takes : τ → Option δ) (space : Option String)
    (state : ContentState) : Option (ContentState × Taken δ) :=
  match model.decision, state with
  | .places table _, .reached reach =>
    let found := matchesAt takes space table reach.places
    ((combine (found.filter isElement)).or (combine found)).map fun (reach, taken) =>
      (.reached reach, taken)
  | .counted members _, .counts counts =>
    if counts.length = members.length then
      (count takes members counts).map fun (counts, taken) => (.counts counts, taken)
    else none
  | _, _ => none

/-- The content may end in the state. -/
def mayEnd (model : ContentModel τ) (state : ContentState) : Bool :=
  match model.decision, state with
  | .places _ _, .reached reach => reach.mayEnd
  | .counted members mayBeLeftOut, .counts counts =>
    counts.length == members.length &&
      ((mayBeLeftOut && counts.all (· == 0)) ||
        (members.zip counts).all fun ((_, occurs), seen) => !occurs.isMissing seen)
  | _, _ => false

/-! ### Expectations -/

/-- A leaf as expectations show it. -/
def leafLabel (label : τ → String) : Leaf τ → String
  | .element term => label term
  | .wildcard wildcard => wildcard.text

/-- What may take the next child, each told once. -/
def expected (label : τ → String) (model : ContentModel τ) (state : ContentState) : List String :=
  match model.decision, state with
  | .places table _, .reached reach =>
    (reach.places.filterMap fun index => table[index]?.map fun place => leafLabel label place.leaf)
      |>.eraseDups
  | .counted members _, .counts counts =>
    ((members.zip counts).filterMap fun ((term, occurs), seen) =>
      if occurs.isOver seen then none else some (label term)).eraseDups
  | _, _ => []

end ContentModel

end SchemaAssessment

/-
Content expressions: what a model group says, with its occurrence bounds written out.
A group that may stand for no children is repeated in the form that takes at least
one, so that repetition never turns on the spot. Every element or wildcard of an
expression has a place, and the places are numbered from left to right; an
expression with a part that takes at least one child has the places of that part
twice, first for its first child and then for the later ones.
-/

import SchemaAssessment.Schema.Group

namespace SchemaAssessment

/-- What takes one child: an element or a wildcard. -/
inductive Leaf (τ : Type) where
  | element (term : τ)
  | wildcard (wildcard : Wildcard)
  deriving Repr, Inhabited

/-- An expression over leaves. -/
inductive Expression (τ : Type) where
  | empty
  | leaf (taker : Leaf τ)
  | sequence (first second : Expression τ)
  | choice (left right : Expression τ)
  | star (body : Expression τ)
  | exactly (count : Nat) (body : Expression τ)
  | upTo (count : Nat) (body : Expression τ)
  | nonEmpty (body : Expression τ)
  deriving Repr, Inhabited

/-- The places where the next child may be taken, in rising order, and whether the content may
end. -/
structure Reach where
  places : List Nat
  mayEnd : Bool
  deriving DecidableEq, Repr, Inhabited

namespace Reach

/-- The places of two rising lists in one rising list without repetitions. -/
def merge : List Nat → List Nat → List Nat
  | [], right => right
  | left, [] => left
  | a :: left, b :: right =>
    if a < b then a :: merge left (b :: right)
    else if b < a then b :: merge (a :: left) right
    else a :: merge left right

/-- What is reached either way. -/
def union (left right : Reach) : Reach :=
  ⟨merge left.places right.places, left.mayEnd || right.mayEnd⟩

/-- Nothing is reached. -/
def nowhere : Reach := ⟨[], false⟩

/-- The end of the content. -/
def ending : Reach := ⟨[], true⟩

end Reach

namespace Expression

variable {τ : Type}

/-! ### Places -/

/-- The expression may stand for no children. -/
def isNullable : Expression τ → Bool
  | .empty => true
  | .leaf _ => false
  | .sequence first second => first.isNullable && second.isNullable
  | .choice left right => left.isNullable || right.isNullable
  | .star _ => true
  | .exactly count body => count == 0 || body.isNullable
  | .upTo _ _ => true
  | .nonEmpty _ => false

/-- The leaves in the order of their places. -/
def leaves : Expression τ → List (Leaf τ)
  | .empty => []
  | .leaf taker => [taker]
  | .sequence first second => first.leaves ++ second.leaves
  | .choice left right => left.leaves ++ right.leaves
  | .star body => body.leaves
  | .exactly count body => (List.replicate count body.leaves).flatten
  | .upTo count body => (List.replicate count body.leaves).flatten
  | .nonEmpty body => body.leaves ++ body.leaves

/-- The number of places. -/
def size : Expression τ → Nat
  | .empty => 0
  | .leaf _ => 1
  | .sequence first second => first.size + second.size
  | .choice left right => left.size + right.size
  | .star body => body.size
  | .exactly count body => count * body.size
  | .upTo count body => count * body.size
  | .nonEmpty body => body.size + body.size

/-- The places that may take the first child, when the places are numbered from `start` on. -/
def firsts : Expression τ → Nat → List Nat
  | .empty, _ => []
  | .leaf _, start => [start]
  | .sequence first second, start =>
    first.firsts start ++ if first.isNullable then second.firsts (start + first.size) else []
  | .choice left right, start => left.firsts start ++ right.firsts (start + left.size)
  | .star body, start => body.firsts start
  | .exactly count body, start =>
    if body.isNullable then
      (List.range count).flatMap fun copy => body.firsts (start + copy * body.size)
    else if count = 0 then [] else body.firsts start
  | .upTo count body, start =>
    if body.isNullable then
      (List.range count).flatMap fun copy => body.firsts (start + copy * body.size)
    else if count = 0 then [] else body.firsts start
  | .nonEmpty body, start => body.firsts start

/-- What is reached before the expression, when `after` is reached behind it. -/
def before (expression : Expression τ) (start : Nat) (after : Reach) : Reach :=
  let here : Reach := ⟨expression.firsts start, false⟩
  if expression.isNullable then here.union after else here

/-- What is reached behind each place, in the order of the places, when `after` is reached behind
the expression. The copies of a repeated part are taken from the last to the first. -/
def follows : Expression τ → Nat → Reach → List Reach
  | .empty, _, _ => []
  | .leaf _, _, after => [after]
  | .sequence first second, start, after =>
    first.follows start (second.before (start + first.size) after)
      ++ second.follows (start + first.size) after
  | .choice left right, start, after =>
    left.follows start after ++ right.follows (start + left.size) after
  | .star body, start, after =>
    body.follows start (Reach.union ⟨body.firsts start, false⟩ after)
  | .exactly count body, start, after =>
    ((List.range count).reverse.foldl (fun (later, behind) copy =>
      let place := start + copy * body.size
      (body.follows place behind ++ later, body.before place behind)) ([], after)).1
  | .upTo count body, start, after =>
    ((List.range count).reverse.foldl (fun (later, behind) copy =>
      let place := start + copy * body.size
      (body.follows place behind ++ later, (body.before place behind).union after)) ([], after)).1
  | .nonEmpty body, start, after =>
    let second := body.follows (start + body.size) after
    second ++ second

/-! ### From groups -/

/-- A part within occurrence bounds. -/
def repeated (occurs : Occurs) (body : Expression τ) : Expression τ :=
  if body.isNullable then
    match occurs.max with
    | none => .star (.nonEmpty body)
    | some max => .upTo max (.nonEmpty body)
  else
    match occurs.max with
    | none => .sequence (.exactly occurs.min body) (.star body)
    | some max =>
      if max ≤ occurs.min then .exactly occurs.min body
      else .sequence (.exactly occurs.min body) (.upTo (max - occurs.min) body)

end Expression

mutual

/-- The particles of a group by its compositor. An unordered group that is not counted takes its
members in any order and number. -/
def Group.bodyExpression {τ : Type} : Group τ → Expression τ
  | .mk .sequence particles _ => Particle.sequenceExpression particles
  | .mk .choice particles _ => Particle.choiceExpression particles
  | .mk .all particles _ => .star (Particle.choiceExpression particles)

/-- A particle within its occurrence bounds. -/
def Particle.expression {τ : Type} : Particle τ → Expression τ
  | .element term occurs => .repeated occurs (.leaf (.element term))
  | .any wildcard => .repeated wildcard.occurs (.leaf (.wildcard wildcard))
  | .nested group => .repeated group.occurs group.bodyExpression

/-- Particles one after the other. -/
def Particle.sequenceExpression {τ : Type} : List (Particle τ) → Expression τ
  | [] => .empty
  | [particle] => particle.expression
  | particle :: rest => .sequence particle.expression (Particle.sequenceExpression rest)

/-- One of some particles; without any, nothing. -/
def Particle.choiceExpression {τ : Type} : List (Particle τ) → Expression τ
  | [] => .empty
  | [particle] => particle.expression
  | particle :: rest => .choice particle.expression (Particle.choiceExpression rest)

end

/-- A group within its occurrence bounds. -/
def Group.expression {τ : Type} (group : Group τ) : Expression τ :=
  .repeated group.occurs group.bodyExpression

end SchemaAssessment

/-
Model groups: sequences, choices and unordered groups of particles, each with
occurrence bounds. A particle is an element, a wildcard or another group. The kind
of element declarations is left open, so that what is said here does not depend on
what a declaration holds.
-/

import SchemaAssessment.Name.Expanded
import SchemaAssessment.Schema.Wildcard

namespace SchemaAssessment

/-- How the particles of a group are put together. -/
inductive Compositor where
  | sequence
  | choice
  | all
  deriving DecidableEq, Repr, Inhabited

namespace Compositor

/-- The names of the compositors. -/
def names : List (String × Compositor) := [
  ("sequence", .sequence), ("choice", .choice), ("all", .all)]

/-- The name of a compositor. -/
def name : Compositor → String
  | .sequence => "sequence"
  | .choice => "choice"
  | .all => "all"

/-- The compositor of a tag, which may be written with the namespace of schemas. -/
def ofTag? (tag : String) : Option Compositor :=
  names.findSome? fun (name, compositor) =>
    if tag == name || tag == (ExpandedName.ofSchema name).text then some compositor else none

/-- What stands between the particles in a description. -/
def separator : Compositor → String
  | .sequence => ", "
  | .choice => " | "
  | .all => " & "

end Compositor

mutual

/-- A part of a content model. What stands for an element is left open. -/
inductive Particle (τ : Type) where
  | element (term : τ) (occurs : Occurs)
  | any (wildcard : Wildcard)
  | nested (group : Group τ)

/-- A model group. -/
inductive Group (τ : Type) where
  | mk (compositor : Compositor) (particles : List (Particle τ)) (occurs : Occurs)

end

namespace Group

variable {τ : Type}

/-- The group without particles, which takes no children. -/
def empty : Group τ := .mk .sequence [] .once

instance : Inhabited (Group τ) := ⟨empty⟩

/-- How the particles are put together. -/
def compositor : Group τ → Compositor
  | .mk compositor _ _ => compositor

/-- The particles in order. -/
def particles : Group τ → List (Particle τ)
  | .mk _ particles _ => particles

/-- How often the group may stand. -/
def occurs : Group τ → Occurs
  | .mk _ _ occurs => occurs

/-- The same group with other occurrence bounds. -/
def withOccurs (group : Group τ) (occurs : Occurs) : Group τ :=
  .mk group.compositor group.particles occurs

/-- The group has no particles. -/
def isEmpty (group : Group τ) : Bool := group.particles.isEmpty

end Group

namespace Particle

variable {τ : Type}

instance : Inhabited (Particle τ) := ⟨.nested .empty⟩

/-- How often the particle may stand. -/
def occurs : Particle τ → Occurs
  | .element _ occurs => occurs
  | .any wildcard => wildcard.occurs
  | .nested group => group.occurs

/-- The same particle with other occurrence bounds. -/
def withOccurs (occurs : Occurs) : Particle τ → Particle τ
  | .element term _ => .element term occurs
  | .any wildcard => .any { wildcard with occurs }
  | .nested group => .nested (group.withOccurs occurs)

end Particle

/-! ### Descriptions -/

mutual

/-- A group as text: its particles between parentheses, and its mark. -/
def Group.text {τ : Type} (label : τ → String) : Group τ → String
  | .mk compositor particles occurs =>
    "(" ++ compositor.separator.intercalate (Particle.texts label particles) ++ ")" ++ occurs.mark

/-- A particle as text: what it takes, and its mark. -/
def Particle.text {τ : Type} (label : τ → String) : Particle τ → String
  | .element term occurs => label term ++ occurs.mark
  | .any wildcard => wildcard.text ++ wildcard.occurs.mark
  | .nested group => group.text label

/-- The texts of some particles. -/
def Particle.texts {τ : Type} (label : τ → String) : List (Particle τ) → List String
  | [] => []
  | particle :: rest => particle.text label :: Particle.texts label rest

end

/-! ### Being left out -/

mutual

/-- The group may stand for no children at all. -/
def Group.isEmptiable {τ : Type} : Group τ → Bool
  | .mk compositor particles occurs =>
    occurs.isEmptiable || particles.isEmpty ||
      match compositor with
      | .sequence | .all => Particle.allEmptiable particles
      | .choice => Particle.anyEmptiable particles

/-- The particle may stand for no children at all. -/
def Particle.isEmptiable {τ : Type} : Particle τ → Bool
  | .element _ occurs => occurs.isEmptiable
  | .any wildcard => wildcard.occurs.isEmptiable
  | .nested group => group.isEmptiable

/-- All of the particles may stand for no children. -/
def Particle.allEmptiable {τ : Type} : List (Particle τ) → Bool
  | [] => true
  | particle :: rest => particle.isEmptiable && Particle.allEmptiable rest

/-- One of the particles may stand for no children. -/
def Particle.anyEmptiable {τ : Type} : List (Particle τ) → Bool
  | [] => false
  | particle :: rest => particle.isEmptiable || Particle.anyEmptiable rest

end

end SchemaAssessment

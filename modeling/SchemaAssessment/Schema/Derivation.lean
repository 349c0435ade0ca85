/-
How types are derived from each other, which derivations a component blocks, and the
values that a declaration supplies or asks for.
-/

import SchemaAssessment.Text.Blank

namespace SchemaAssessment

/-- How a type is derived from its base. -/
inductive DerivationMethod where
  | restriction
  | extension
  deriving DecidableEq, Repr, Inhabited

namespace DerivationMethod

/-- The names of the methods. -/
def names : List (String × DerivationMethod) := [
  ("restriction", .restriction), ("extension", .extension)]

/-- The method with a name. -/
def ofName? (name : String) : Option DerivationMethod := names.lookup name

/-- The name of a method. -/
def name : DerivationMethod → String
  | .restriction => "restriction"
  | .extension => "extension"

end DerivationMethod

/-- The derivations that are blocked. -/
structure Block where
  restriction : Bool := false
  extension : Bool := false
  substitution : Bool := false
  deriving DecidableEq, Repr, Inhabited

namespace Block

/-- Nothing is blocked. -/
def nothing : Block := {}

/-- All is blocked. -/
def everything : Block := ⟨true, true, true⟩

/-- What is blocked once a token has been read as well. -/
def addToken (block : Block) (token : String) : Block :=
  match token with
  | "#all" => everything
  | "restriction" => { block with restriction := true }
  | "extension" => { block with extension := true }
  | "substitution" => { block with substitution := true }
  | _ => block

/-- What an attribute value blocks: the methods that it names, or all of them. -/
def ofAttribute (text : String) : Block := (Text.words text).foldl addToken nothing

/-- The method is blocked. -/
def blocks (block : Block) : DerivationMethod → Bool
  | .restriction => block.restriction
  | .extension => block.extension

/-- What either blocks. -/
def union (left right : Block) : Block :=
  ⟨left.restriction || right.restriction, left.extension || right.extension,
    left.substitution || right.substitution⟩

end Block

/-- The value that a declaration supplies where an instance gives none. A fixed value is also
asked for where the instance gives one. -/
inductive ValueConstraint where
  | default (value : String)
  | fixed (value : String)
  deriving DecidableEq, Repr, Inhabited

namespace ValueConstraint

/-- The value as text. -/
def text : ValueConstraint → String
  | .default value => value
  | .fixed value => value

/-- The value is fixed. -/
def isFixed : ValueConstraint → Bool
  | .default _ => false
  | .fixed _ => true

/-- The fixed value. -/
def fixed? : ValueConstraint → Option String
  | .default _ => none
  | .fixed value => some value

end ValueConstraint

end SchemaAssessment

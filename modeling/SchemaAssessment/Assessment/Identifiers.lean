/-
The identifiers of a document. An identifier may be declared once, references may
come before the declaration, and what is left unresolved is told in the order in
which it was first referred to.
-/

import SchemaAssessment.SimpleType.Basic
import SchemaAssessment.Assessment.Diagnostic

namespace SchemaAssessment

/-- The identifiers declared so far, the latest first, and those referred to, in order. Each is
there once. -/
structure Identifiers where
  declared : List String
  referred : List String
  deriving DecidableEq, Repr, Inhabited

namespace Identifiers

/-- No identifier at all. -/
def none : Identifiers := ⟨[], []⟩

/-- The identifier has been declared. -/
def isDeclared (identifiers : Identifiers) (identifier : String) : Bool :=
  identifiers.declared.contains identifier

/-- Declares an identifier. One that has been declared is not declared again. -/
def declare (identifiers : Identifiers) (identifier : String) : Identifiers :=
  if identifiers.isDeclared identifier then identifiers
  else { identifiers with declared := identifier :: identifiers.declared }

/-- Refers to an identifier. -/
def refer (identifiers : Identifiers) (identifier : String) : Identifiers :=
  if identifiers.referred.contains identifier then identifiers
  else { identifiers with referred := identifiers.referred ++ [identifier] }

/-- The references to identifiers that are not declared, in the order in which they came. -/
def unresolved (identifiers : Identifiers) : List String :=
  identifiers.referred.filter fun identifier => !identifiers.isDeclared identifier

/-- The number of declared identifiers. -/
def count (identifiers : Identifiers) : Nat := identifiers.declared.length

/-- Declares identifiers in turn and tells which of them had been declared. -/
def declareAll (identifiers : Identifiers) (element : String) :
    List String → Identifiers × List Diagnostic
  | [] => (identifiers, [])
  | identifier :: rest =>
    let (after, found) := (identifiers.declare identifier).declareAll element rest
    if identifiers.isDeclared identifier then
      (after, ⟨.duplicateId, element, [identifier]⟩ :: found)
    else (after, found)

/-- Takes in a value of an element: the identifiers that it declares or refers to. -/
def take (identifiers : Identifiers) (element : String) (value : Value) (kind : IdKind) :
    Identifiers × List Diagnostic :=
  match kind with
  | .none => (identifiers, [])
  | .declares => identifiers.declareAll element value.itemTexts
  | .refers => (value.itemTexts.foldl refer identifiers, [])

/-- A declared identifier is declared, and declaring it leaves the others as they are. -/
theorem isDeclared_declare (identifiers : Identifiers) (identifier other : String) :
    (identifiers.declare identifier).isDeclared other =
      (other == identifier || identifiers.isDeclared other) := by
  unfold declare
  split
  · next present =>
    cases same : other == identifier with
    | false => simp
    | true => rw [eq_of_beq same, present]; rfl
  · simp only [isDeclared, List.contains_cons]

/-- An identifier is unresolved if it is referred to and not declared. -/
theorem mem_unresolved (identifiers : Identifiers) (identifier : String) :
    identifier ∈ identifiers.unresolved ↔
      identifier ∈ identifiers.referred ∧ identifiers.isDeclared identifier = false := by
  simp [unresolved]

end Identifiers

end SchemaAssessment

/-
Reading the paths of identity constraints. Alternatives are cut at bars and steps at
slashes; blanks around them do not count. Prefixes mean what they were bound to
where the constraint was declared, and names without one are in no namespace.
-/

import SchemaAssessment.Name.Lexical
import SchemaAssessment.Name.Scope
import SchemaAssessment.Path.Basic

namespace SchemaAssessment

/-- Why a path is malformed. -/
inductive PathFault where
  | empty
  | innerDescent (path : String)
  | emptyStep (path : String)
  | nameTest (test : String)
  | unboundPrefix (prefixName test : String)
  | misplacedAttribute (path : String)
  deriving DecidableEq, Repr, Inhabited

/-- The message about a malformed path. -/
def PathFault.message : PathFault → String
  | .empty => "empty path expression"
  | .innerDescent path => s!"only a leading './/' may select descendants: '{path}'"
  | .emptyStep path => s!"empty step in '{path}'"
  | .nameTest test => s!"invalid name test '{test}'"
  | .unboundPrefix prefixName test => s!"unbound prefix '{prefixName}' in '{test}'"
  | .misplacedAttribute path => s!"attribute step not allowed here in '{path}'"

/-- The fault is told together with the whole expression. -/
def PathFault.showsSource : PathFault → Bool
  | .misplacedAttribute _ => false
  | _ => true

namespace LocationPath

/-- Two slashes stand together. -/
def hasDoubleSlash (chars : List Char) : Bool := Text.occursIn ['/', '/'] chars

/-- The texts of the steps between the slashes; faults tell the whole path. -/
def cut (path : String) (chars : List Char) : Except PathFault (List String) :=
  if chars.head? == some '/' || hasDoubleSlash chars then .error (.innerDescent path)
  else
    let steps := (Text.pieces '/' (String.ofList chars)).map Text.trim
    if steps.any String.isEmpty then .error (.emptyStep path) else .ok steps

/-- Whether an alternative is deep, and the texts of its steps. -/
def split (alternative : String) : Except PathFault (Bool × List String) :=
  let path := Text.trim alternative
  match path.toList with
  | [] => .error .empty
  | '.' :: '/' :: '/' :: rest => (cut path (Text.trimStart rest)).map fun steps => (true, steps)
  | chars => (cut path chars).map fun steps => (false, steps)

end LocationPath

namespace NameTest

/-- The namespace of a prefix. -/
def boundSpace (scopes : NamespaceScopes) (prefixName test : String) : Except PathFault String :=
  match scopes.lookup prefixName with
  | some bound => .ok bound
  | none => .error (.unboundPrefix prefixName test)

/-- Reads a name test: a star, a prefix with a star, or a name. -/
def read (scopes : NamespaceScopes) (test : String) : Except PathFault NameTest :=
  if test == "*" then .ok .any
  else match Text.dropSuffix? [':', '*'] test.toList with
    | some front =>
      let prefixName := String.ofList front
      if Name.isNCName prefixName then (boundSpace scopes prefixName test).map .space
      else .error (.nameTest test)
    | none =>
      if !Name.isQName test then .error (.nameTest test)
      else match Name.splitQName test with
        | (some prefixName, localName) =>
          (boundSpace scopes prefixName test).map fun space => .name ⟨some space, localName⟩
        | (none, localName) => .ok (.name ⟨none, localName⟩)

end NameTest

namespace Step

/-- The marks of the axes, each with its axis. -/
def marks : List (String × StepAxis) := [
  ("@", .attribute), ("attribute::", .attribute), ("child::", .child)]

/-- The axis that a step begins with, and what follows its mark. -/
def splitAxis (chars : List Char) : StepAxis × List Char :=
  (marks.findSome? fun (mark, axis) =>
    (Text.dropPrefix? mark.toList chars).map fun rest => (axis, rest)).getD (.child, chars)

/-- Reads a step. -/
def read (scopes : NamespaceScopes) (text : String) : Except PathFault Step :=
  if text == "." then .ok ⟨.self, .any⟩
  else
    let (axis, rest) := splitAxis text.toList
    (NameTest.read scopes (Text.trim (String.ofList rest))).map fun test => ⟨axis, test⟩

end Step

namespace IdentityPath

/-- What a path is read as: only the path of a field may end at an attribute. -/
inductive Role where
  | selector
  | field
  deriving DecidableEq, Repr, Inhabited

/-- An attribute step stands where the role does not allow it. -/
def hasMisplacedAttribute (role : Role) (steps : List Step) : Bool :=
  let isAttribute (step : Step) : Bool := step.axis == .attribute
  steps.dropLast.any isAttribute || (role == .selector && steps.any isAttribute)

/-- Reads one alternative of an expression. -/
def readAlternative (role : Role) (scopes : NamespaceScopes) (expression alternative : String) :
    Except PathFault LocationPath := do
  let (isDeep, texts) ← LocationPath.split alternative
  let steps ← texts.mapM (Step.read scopes)
  if hasMisplacedAttribute role steps then throw (.misplacedAttribute expression)
  return ⟨isDeep, steps⟩

/-- Reads an expression. -/
def read (role : Role) (scopes : NamespaceScopes) (expression : String) :
    Except PathFault IdentityPath :=
  ((Text.pieces '|' expression).mapM (readAlternative role scopes expression)).map
    fun alternatives => ⟨expression, alternatives⟩

end IdentityPath

end SchemaAssessment

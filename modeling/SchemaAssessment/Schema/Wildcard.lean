/-
Wildcards: parts of a schema that take elements or attributes by their namespace.
No namespace counts as the empty one. What a wildcard takes is validated strictly,
validated where a declaration is known, or passed over.
-/

import SchemaAssessment.Schema.Occurs
import SchemaAssessment.Text.Blank

namespace SchemaAssessment

/-- What is done with what a wildcard takes. -/
inductive ProcessContents where
  | strict
  | lax
  | skip
  deriving DecidableEq, Repr, Inhabited

namespace ProcessContents

/-- The names of the modes. -/
def names : List (String × ProcessContents) := [("strict", .strict), ("lax", .lax), ("skip", .skip)]

/-- The mode with a name. -/
def ofName? (name : String) : Option ProcessContents := names.lookup name

/-- The name of a mode. -/
def name : ProcessContents → String
  | .strict => "strict"
  | .lax => "lax"
  | .skip => "skip"

end ProcessContents

/-- The namespaces that a wildcard takes. -/
inductive NamespaceConstraint where
  | any
  | other (target : Option String)
  | among (spaces : List String)
  deriving DecidableEq, Repr, Inhabited

/-- A token of a namespace list that has no meaning. -/
structure UnknownNamespaceToken where
  token : String
  deriving DecidableEq, Repr, Inhabited

/-- The message about such a token. -/
def UnknownNamespaceToken.message (fault : UnknownNamespaceToken) : String :=
  s!"wrong value '{fault.token}' in 'namespace' attribute"

namespace NamespaceConstraint

/-- Puts a text into a sorted list without repetitions. -/
def insertSorted (space : String) : List String → List String
  | [] => [space]
  | first :: rest =>
    if space == first then first :: rest
    else if space < first then space :: first :: rest
    else first :: insertSorted space rest

/-- The constraint that lists the given namespaces. -/
def ofSpaces (spaces : List String) : NamespaceConstraint :=
  .among (spaces.foldl (fun sorted space => insertSorted space sorted) [])

/-- The namespace that a token of a list means. -/
def readToken (target : Option String) (token : String) : Except UnknownNamespaceToken String :=
  match token with
  | "##local" => .ok ""
  | "##targetNamespace" => .ok (target.getD "")
  | _ => if token.startsWith "##" then .error ⟨token⟩ else .ok token

/-- The constraint that an attribute value in a schema with the given target namespace states. -/
def ofAttribute (text : String) (target : Option String) :
    Except UnknownNamespaceToken NamespaceConstraint :=
  match Text.trim text with
  | "##any" => .ok .any
  | "##other" => .ok (.other target)
  | list => ((Text.words list).mapM (readToken target)).map ofSpaces

/-- The namespace is taken. -/
def allows (constraint : NamespaceConstraint) (space : Option String) : Bool :=
  let space := space.getD ""
  match constraint with
  | .any => true
  | .other target => space != "" && some space != target
  | .among spaces => spaces.contains space

/-- The constraint as descriptions of content models show it. -/
def text : NamespaceConstraint → String
  | .any => "##any"
  | .other target => "##other:\"" ++ target.getD "" ++ "\""
  | .among spaces => ",".intercalate (spaces.map fun space => "\"" ++ space ++ "\"")

end NamespaceConstraint

/-- A wildcard. The occurrence bounds of a wildcard for attributes mean nothing. -/
structure Wildcard where
  spaces : NamespaceConstraint
  processContents : ProcessContents
  occurs : Occurs
  deriving DecidableEq, Repr, Inhabited

namespace Wildcard

/-- A wildcard that takes every namespace. -/
def any (processContents : ProcessContents) : Wildcard := ⟨.any, processContents, .once⟩

/-- The namespace is taken. -/
def allows (wildcard : Wildcard) (space : Option String) : Bool := wildcard.spaces.allows space

/-- The wildcard as descriptions of content models show it. -/
def text (wildcard : Wildcard) : String := "WC[" ++ wildcard.spaces.text ++ "]"

end Wildcard

end SchemaAssessment

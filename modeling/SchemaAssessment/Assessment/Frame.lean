/-
What is known of an open element: what governs it, how far its content has come, and
its text so far. The content of the parent takes a child, or rejects it, or has
nothing to say about it.
-/

import SchemaAssessment.Content.Model
import SchemaAssessment.Grammar.Registry

namespace SchemaAssessment

/-- How far the content of an element has come. The first child that is rejected is told apart from
what follows, which is not held against the content again. -/
inductive ContentProgress where
  | valid (state : ContentState)
  | firstError
  | subsequentError
  deriving DecidableEq, Repr, Inhabited

/-- The content of an open element under its content model. -/
structure OpenContent where
  model : ContentModel ElementTerm
  progress : ContentProgress
  deriving Inhabited

namespace OpenContent

/-- Content before the first child. -/
def start (model : ContentModel ElementTerm) : OpenContent := ⟨model, .valid model.start⟩

/-- What is expected in a state, between braces. -/
def expectation (model : ContentModel ElementTerm) (state : ContentState) : String :=
  "\x7b" ++ ", ".intercalate (model.expected ElementTerm.label state) ++ "\x7d"

end OpenContent

/-- An open element. -/
structure Frame where
  name : QualifiedName
  /-- The declaration that governs the element. -/
  declaration : Option KnownElement := none
  /-- The type that governs the element, which the instance may have chosen. -/
  type : Option KnownType := none
  /-- The content, where the type has a content model. -/
  content : Option OpenContent := none
  /-- The element is nil. -/
  isNil : Bool := false
  /-- The element claims to be nil or not, which its declaration does not allow. -/
  isNilRefused : Bool := false
  childCount : Nat := 0
  /-- The text holds more than blanks. -/
  hasText : Bool := false
  text : String := ""
  deriving Inhabited

/-- What the content of the parent makes of a child. -/
inductive Admission where
  /-- A particle took the child. -/
  | taken (particle : Taken KnownElement)
  /-- The content has nothing to say; the name of the child decides. -/
  | byName
  /-- The child is not allowed here; these are expected. -/
  | rejected (expected : String)
  deriving Inhabited

namespace Frame

/-- The name as written. -/
def raw (frame : Frame) : String := frame.name.raw

/-- The content behind a child, and what it makes of the child. -/
def takeWithin (registry : Registry) (child : ExpandedName) (content : OpenContent) :
    OpenContent × Admission :=
  match content.progress with
  | .valid state =>
    match content.model.step (registry.takes child) child.space state with
    | some (next, particle) => ({ content with progress := .valid next }, .taken particle)
    | none =>
      ({ content with progress := .firstError },
        .rejected (OpenContent.expectation content.model state))
  | .firstError | .subsequentError => ({ content with progress := .subsequentError }, .byName)

/-- The parent behind a child, and what it makes of the child. The content of a nil element has
nothing to say. -/
def takeChild (registry : Registry) (child : ExpandedName) (parent : Frame) : Frame × Admission :=
  let parent := { parent with childCount := parent.childCount + 1 }
  match parent.content, parent.isNil with
  | some content, false =>
    let (content, admission) := takeWithin registry child content
    ({ parent with content := some content }, admission)
  | _, _ => (parent, .byName)

/-- Adds text to the element. -/
def addText (frame : Frame) (text : String) : Frame :=
  { frame with
    text := frame.text ++ text
    hasText := frame.hasText || text.toList.any fun c => !Text.isMarkupBlank c }

/-- The element has neither children nor text. -/
def isBare (frame : Frame) : Bool := frame.childCount == 0 && frame.text.isEmpty

end Frame

end SchemaAssessment

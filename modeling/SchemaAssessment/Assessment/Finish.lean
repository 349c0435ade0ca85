/-
End tags. What an element holds is checked under its type: its children and text
against the content of the type, its text against the simple type of its value, and
its value against a fixed one. An element with neither children nor text takes the
value of its declaration, which is passed on as text. Then the value goes to the
identifiers and to the identity constraints, and the end of the root element settles
the references to identifiers.
-/

import SchemaAssessment.Assessment.Validator

namespace SchemaAssessment

/-- What checking the content of an element gives: its typed value, if it is valid, and the text
that is supplied for it. -/
structure AssessedContent where
  typed : Option TypedAttribute := none
  supplied : Option String := none
  deriving Inhabited

/-- A finding that has no argument but the element. -/
def plainFinding (rule : Rule) (element : String) : Diagnostic := ⟨rule, element, [element]⟩

namespace Validator

/-! ### Values -/

/-- The simple type of the text of an element: for simple types and simple content. -/
def valueType? (validator : Validator) : TypeDefinition → Option SimpleType
  | .simple type => some type
  | .complex type =>
    if type.content == .simple then some (validator.registry.simpleTypeOf type.simpleType)
    else none

/-- Checks a text under a simple type. -/
def checkValue (validator : Validator) (element : String) (type : SimpleType) (text : String) :
    Option TypedAttribute × List Diagnostic :=
  match type.validate validator.scopes text with
  | .ok value => (some ⟨value, type.idKind⟩, [])
  | .error fault => (none, [⟨.simpleTypeValue, element, [element, text, fault.message]⟩])

/-- What is found when the content ends before it may. -/
def checkComplete (element : String) : Option OpenContent → List Diagnostic
  | some ⟨model, .valid state⟩ =>
    if model.mayEnd state then []
    else [⟨.incompleteContent, element, [element, OpenContent.expectation model state]⟩]
  | _ => []

/-- Checks the content of an element under its type, its text being the given one. -/
def checkContent (validator : Validator) (frame : Frame) (type : TypeDefinition) (text : String) :
    Option TypedAttribute × List Diagnostic :=
  let element := frame.raw
  match type with
  | .simple type =>
    if 0 < frame.childCount then (none, [plainFinding .simpleTypeChildren element])
    else validator.checkValue element type text
  | .complex type =>
    match type.content with
    | .empty =>
      (none, if 0 < frame.childCount || frame.hasText then [plainFinding .emptyContent element]
        else [])
    | .simple =>
      if 0 < frame.childCount then (none, [plainFinding .simpleContentChildren element])
      else validator.checkValue element (validator.registry.simpleTypeOf type.simpleType) text
    | .elementOnly =>
      (none, (if frame.hasText then [plainFinding .elementOnlyText element] else []) ++
        checkComplete element frame.content)
    | .mixed => (none, checkComplete element frame.content)

/-! ### Supplied values -/

/-- The value of a declaration may stand for the content of a type. -/
def suits (validator : Validator) (type : TypeDefinition) (text : String) : Bool :=
  match validator.valueType? type, type with
  | some simple, _ => (simple.validate validator.scopes text).isOk
  | none, .complex type =>
    type.content == .mixed && type.group.all Group.isEmptiable
  | none, .simple _ => false

/-- What is found when the value of a declaration does not suit a type that the instance chose. -/
def checkSupplied (validator : Validator) (element : String) (declaration : KnownElement)
    (type : KnownType) (text : String) : List Diagnostic :=
  if (validator.registry.elementType declaration).isSame type ||
      validator.suits type.definition text then []
  else [⟨.invalidDefaultForType, element, [element, type.definition.shownName, text]⟩]

/-- The content of an element that takes the value of its declaration. -/
def supplyContent (validator : Validator) (frame : Frame) (declaration : KnownElement)
    (type : KnownType) (text : String) : AssessedContent × List Diagnostic :=
  let supplied := ((validator.valueType? type.definition).map fun simple =>
    simple.normalize text).getD text
  let (typed, found) := validator.checkContent frame type.definition supplied
  ({ typed, supplied := some supplied },
    validator.checkSupplied frame.raw declaration type text ++ found)

/-! ### Fixed values -/

/-- What is found when a value is not the fixed one. -/
def checkFixed (validator : Validator) (frame : Frame) (type : TypeDefinition)
    (value : Option Value) (fixed : String) : List Diagnostic :=
  let differs (rule : Rule) : List Diagnostic :=
    [⟨rule, frame.raw, [frame.raw, frame.text, fixed]⟩]
  let checkTyped : List Diagnostic :=
    match validator.valueType? type, value with
    | some simple, some value =>
      if simple.agrees validator.scopes value fixed then [] else differs .fixedValueMismatch
    | _, _ => []
  match type with
  | .simple _ => checkTyped
  | .complex type =>
    if 0 < frame.childCount then [plainFinding .fixedWithChildren frame.raw]
    else if type.content == .mixed then
      if frame.text == fixed then [] else differs .fixedMixedMismatch
    else checkTyped

/-! ### The content of an element -/

/-- The content of an element that is not nil. -/
def assessPresent (validator : Validator) (frame : Frame) (type : KnownType) :
    AssessedContent × List Diagnostic :=
  let constraint := frame.declaration.bind fun found => found.declaration.constraint
  match frame.declaration, constraint, frame.isBare with
  | some declaration, some constraint, true =>
    validator.supplyContent frame declaration type constraint.text
  | _, _, _ =>
    let (typed, found) := validator.checkContent frame type.definition frame.text
    let ofFixed := ((constraint.bind ValueConstraint.fixed?).map
      (validator.checkFixed frame type.definition (typed.map TypedAttribute.value))).getD []
    ({ typed }, found ++ ofFixed)

/-- The content of an element. Where the claim to be nil was refused nothing is checked. -/
def assessContent (validator : Validator) (frame : Frame) : AssessedContent × List Diagnostic :=
  match frame.type with
  | none => ({}, [])
  | some type =>
    if frame.isNilRefused then ({}, [])
    else if frame.isNil then
      ({}, if frame.isBare then [] else [plainFinding .nilWithContent frame.raw])
    else validator.assessPresent frame type

/-- The value that identity constraints see: the typed one, else the words of the text. Nil elements
have none. -/
def identityValue (frame : Frame) (content : AssessedContent) : Option Value :=
  if frame.isNil then none
  else match content.typed with
    | some typed => some typed.value
    | none => some (.string (" ".intercalate (Text.words (content.supplied.getD frame.text))))

/-! ### Closing elements -/

/-- Shows the end tag to the identity constraints. -/
def finishIdentities (validator : Validator) (value : Option Value) (element : String) :
    Validator × List Diagnostic :=
  if validator.isValidating then
    let (identities, found) := validator.identities.finish value element
    ({ validator with identities }, found)
  else (validator, [])

/-- Takes in the identifiers of the value of an element. -/
def finishIdentifiers (validator : Validator) (element : String) :
    Option TypedAttribute → Validator × List Diagnostic
  | none => (validator, [])
  | some typed =>
    let (identifiers, found) := validator.identifiers.take element typed.value typed.idKind
    ({ validator with identifiers }, found)

/-- What is found at the end of the root element: references to what is not declared. -/
def checkReferences (validator : Validator) (element : String) : List Diagnostic :=
  if validator.frames.isEmpty then
    validator.identifiers.unresolved.map fun identifier => ⟨.unresolvedIdref, element, [identifier]⟩
  else []

/-- Closes an assessed element. Told is the text that is supplied for it. -/
def closeElement (validator : Validator) (frame : Frame) (outer : List Frame) :
    Validator × Option String × List Diagnostic :=
  let (content, ofContent) := validator.assessContent frame
  let (validator, ofIdentifiers) := validator.finishIdentifiers frame.raw content.typed
  let (validator, ofIdentities) :=
    validator.finishIdentities (identityValue frame content) frame.raw
  let validator := { validator with frames := outer }
  (validator, content.supplied,
    ofContent ++ ofIdentifiers ++ ofIdentities ++ validator.checkReferences frame.raw)

/-- Leaves the subtree that is passed through, at the end tag of the element that opened it. -/
def leaveSkip (validator : Validator) (skipDepth : Nat) : Validator :=
  if skipDepth == validator.depth then
    { validator with skipDepth := none, frames := validator.frames.tail }
  else validator

/-- Closes the innermost element, as far as one is open. -/
def close (validator : Validator) : Validator × Option String × List Diagnostic :=
  match validator.skipDepth, validator.frames with
  | some skipDepth, _ => (validator.leaveSkip skipDepth, none, [])
  | none, [] => (validator, none, [])
  | none, frame :: outer => validator.closeElement frame outer

/-- Closes the scope of the innermost element. -/
def leaveScope (validator : Validator) : Validator :=
  { validator with scopes := validator.scopes.pop, depth := validator.depth - 1 }

/-- An end tag. -/
def finish (validator : Validator) (name : QualifiedName) : Outcome :=
  let (closed, supplied, found) := validator.close
  { validator := closed.leaveScope
    diagnostics := told validator.isValidating found
    events := (supplied.map Event.characters).toList ++ [.endElement name] }

end Validator

end SchemaAssessment

/-
The values of a document. A value comes in at a start tag, from an attribute of the
document or one that is supplied, and at an end tag, from the text of the element or the
one that is supplied for it. Each is a text that is valid under a simple type, which also
says what part the value has in identification; and no value comes from a subtree that is
passed through.
-/

import Mathlib.Data.List.ReduceOption
import SchemaAssessment.Proofs.Assessment.Nesting

namespace SchemaAssessment

/-! ### Values of attributes -/

/-- A text as a value of a type, with the part of the type in identification, if it is valid. -/
def SimpleType.typed? (type : SimpleType) (scopes : NamespaceScopes) (text : String) :
    Option TypedAttribute :=
  (type.validate scopes text).toOption.map fun value => ⟨value, type.idKind⟩

/-- The value of an attribute under the declaration that governs it, if it is valid. -/
def AttributeContext.typed? (context : AttributeContext) (group : AttributeGroup TypeReference)
    (member : Attribute) : Option TypedAttribute :=
  let underDeclaration (declaration : AttributeDeclaration TypeReference) :=
    (context.registry.simpleTypeOf declaration.type).typed? context.scopes member.value
  match context.registry.governor group member with
  | .use use => underDeclaration use.declaration
  | .declaration declaration => underDeclaration declaration
  | .nothing | .refusal => none

theorem AttributeContext.checkValue_typed (context : AttributeContext) (member : Attribute)
    (declaration : AttributeDeclaration TypeReference) (ofUse : Option ValueConstraint) :
    (context.checkValue member declaration ofUse).1 =
      (context.registry.simpleTypeOf declaration.type).typed? context.scopes member.value := by
  rw [checkValue, SimpleType.typed?]
  cases (context.registry.simpleTypeOf declaration.type).validate context.scopes member.value <;>
    rfl

theorem AttributeContext.checkEach_typed (context : AttributeContext)
    (group : AttributeGroup TypeReference) (attributes : Attributes) (wildcardId : Option String) :
    (context.checkEach group wildcardId attributes).1 = attributes.map (context.typed? group) := by
  induction attributes generalizing wildcardId with
  | nil => rfl
  | cons member rest ofRest =>
    rw [checkEach, List.map_cons, typed?]
    cases context.registry.governor group member <;> simp [ofRest, checkValue_typed]

/-- The values of the attributes of an element that is assessed, where findings are told. -/
theorem AttributeContext.assess_typed (context : AttributeContext)
    (group : Option (AttributeGroup TypeReference)) (attributes : Attributes) :
    (context.assess true group attributes).2.1.reduceOption =
      group.elim [] fun group => (group.supply attributes).filterMap (context.typed? group) := by
  cases group with
  | none => simp [assess, List.reduceOption]
  | some group =>
    show ((context.checkEach group none (group.supply attributes)).1).reduceOption = _
    rw [checkEach_typed, List.reduceOption, List.filterMap_map]
    rfl

/-! ### Values of elements -/

/-- The text of an element under a type; if it is bare, the one that its declaration gives. -/
def Frame.textUnder (frame : Frame) (type : SimpleType) : String :=
  match frame.declaration.bind fun found => found.declaration.constraint with
  | some constraint => if frame.isBare then type.normalize constraint.text else frame.text
  | none => frame.text

namespace Validator

/-- The value of an element, if it is valid. There is none where the element claims to be nil or has
children. -/
def typedContent? (validator : Validator) (frame : Frame) : Option TypedAttribute :=
  if frame.isNil || frame.isNilRefused || 0 < frame.childCount then none
  else (frame.type.bind fun type => validator.valueType? type.definition).bind fun type =>
    type.typed? validator.scopes (frame.textUnder type)

theorem checkValue_typed (validator : Validator) (element : String) (type : SimpleType)
    (text : String) :
    (validator.checkValue element type text).1 = type.typed? validator.scopes text := by
  rw [checkValue, SimpleType.typed?]
  cases type.validate validator.scopes text <;> rfl

theorem checkContent_typed (validator : Validator) (frame : Frame) (type : TypeDefinition)
    (text : String) :
    (validator.checkContent frame type text).1 =
      if 0 < frame.childCount then none
      else (validator.valueType? type).bind fun type => type.typed? validator.scopes text := by
  unfold checkContent valueType?
  by_cases children : 0 < frame.childCount
  · cases type with
    | simple type => simp [children]
    | complex type => cases held : type.content <;> simp [held, children]
  · cases type with
    | simple type => simp [children, checkValue_typed]
    | complex type => cases held : type.content <;> simp [held, children, checkValue_typed]

theorem assessPresent_typed (validator : Validator) (frame : Frame) (type : KnownType) :
    (validator.assessPresent frame type).1.typed = if 0 < frame.childCount then none
      else (validator.valueType? type.definition).bind fun type =>
        type.typed? validator.scopes (frame.textUnder type) := by
  unfold assessPresent Frame.textUnder
  cases frame.declaration with
  | none => simp [checkContent_typed]
  | some declaration =>
    cases constrained : declaration.declaration.constraint with
    | none => simp [constrained, checkContent_typed]
    | some constraint =>
      cases bare : frame.isBare with
      | false => simp [constrained, checkContent_typed]
      | true =>
        simp only [Option.bind_some, constrained, supplyContent, checkContent_typed]
        cases validator.valueType? type.definition <;> simp

/-- The value of an element at its end is that of its text. -/
theorem assessContent_typed (validator : Validator) (frame : Frame) :
    (validator.assessContent frame).1.typed = validator.typedContent? frame := by
  unfold assessContent typedContent?
  cases frame.type with
  | none => simp
  | some type =>
    by_cases refused : frame.isNilRefused = true
    · simp [refused]
    · by_cases isNil : frame.isNil = true
      · simp [refused, isNil]
      · simp [refused, isNil, assessPresent_typed]

/-! ### Values that come in -/

/-- The values of the attributes of an element that is received, of those too that are supplied, as
far as they are valid. There are none where its subtree is passed through. -/
def typedAttributes (validator : Validator) (name : QualifiedName) (attributes : Attributes) :
    List TypedAttribute :=
  let offered := (validator.offer name.expanded).1
  let context : AttributeContext := ⟨offered.registry, offered.scopes, name.raw⟩
  match (validator.offer name.expanded).2.receive offered.registry name.expanded with
  | .skipped => []
  | .assessed declaration _ =>
    match (offered.governingType name.raw declaration attributes).1 with
    | none => []
    | some type =>
      (attributesOf type.definition).elim [] fun group =>
        (group.supply attributes).filterMap (context.typed? group)

/-- The values that come in at an event. -/
def valuesAt (validator : Validator) : Event → List TypedAttribute
  | .startElement name attributes =>
    if validator.isSkipping then []
    else (validator.prepared name attributes).typedAttributes name attributes
  | .endElement _ =>
    if validator.isSkipping then []
    else (validator.frames.head?.bind validator.typedContent?).toList
  | _ => []

/-- The values that come in along some events. -/
def valuesAlong (validator : Validator) : List Event → List TypedAttribute
  | [] => []
  | event :: rest => validator.valuesAt event ++ (validator.step event).validator.valuesAlong rest

/-- Nothing comes in from a subtree that is passed through. -/
theorem valuesAt_of_isSkipping {validator : Validator} (skipping : validator.isSkipping = true)
    (event : Event) : validator.valuesAt event = [] := by
  unfold valuesAt
  split <;> simp [skipping]

theorem valuesAt_endElement {validator : Validator} (outside : validator.skipDepth = none)
    (ending : QualifiedName) :
    validator.valuesAt (.endElement ending) =
      (validator.frames.head?.bind validator.typedContent?).toList := by
  simp [valuesAt, isSkipping, outside]

theorem valuesAlong_append {validator : Validator} {first rest : List Event}
    (runs : (validator.run first).failure = none) :
    validator.valuesAlong (first ++ rest) =
      validator.valuesAlong first ++ (validator.run first).validator.valuesAlong rest := by
  induction first generalizing validator with
  | nil => rfl
  | cons event others ofOthers =>
    obtain ⟨-, further, behind⟩ := run_cons_of_runs runs
    rw [List.cons_append, valuesAlong, valuesAlong, ofOthers further, behind, List.append_assoc]

end Validator

end SchemaAssessment

/-
What a validator finds apart from identity constraints. Hints, the content of the parent,
declarations and types, the claim to be nil, attributes, identifiers, values and content
all have rules of their own, so that a finding under a rule of identity constraints comes
from the engine of identity constraints alone.
-/

import SchemaAssessment.Assessment.Finish
import SchemaAssessment.Assessment.Start
import SchemaAssessment.Proofs.Assessment.Rules

namespace SchemaAssessment

/-! ### Findings of identity constraints -/

/-- The findings of identity constraints. -/
def ofIdentity (diagnostics : List Diagnostic) : List Diagnostic :=
  diagnostics.filter fun diagnostic => diagnostic.rule.isIdentity

@[simp] theorem ofIdentity_append (first second : List Diagnostic) :
    ofIdentity (first ++ second) = ofIdentity first ++ ofIdentity second :=
  List.filter_append ..

/-- None of the findings is one of identity constraints. -/
structure Ordinary (diagnostics : List Diagnostic) : Prop where
  plain : ∀ diagnostic ∈ diagnostics, diagnostic.rule.isIdentity = false

namespace Ordinary

theorem nil : Ordinary [] := ⟨fun _ member => absurd member List.not_mem_nil⟩

theorem append {first second : List Diagnostic} (left : Ordinary first)
    (right : Ordinary second) : Ordinary (first ++ second) := by
  refine ⟨fun diagnostic member => ?_⟩
  exact (List.mem_append.mp member).elim (left.plain diagnostic) (right.plain diagnostic)

theorem ofIdentity_eq {diagnostics : List Diagnostic} (ordinary : Ordinary diagnostics) :
    ofIdentity diagnostics = [] :=
  List.filter_eq_nil_iff.mpr fun diagnostic member =>
    Bool.eq_false_iff.mp (ordinary.plain diagnostic member)

end Ordinary

/-- Findings are not of identity constraints if none of their rules is. -/
theorem Under.ordinary {rules : List Rule} {diagnostics : List Diagnostic}
    (under : Under rules diagnostics) (plain : ∀ rule ∈ rules, rule.isIdentity = false) :
    Ordinary diagnostics :=
  ⟨fun diagnostic member => plain _ (under.told diagnostic member)⟩

/-! ### Identifiers -/

theorem Identifiers.declareAll_under (identifiers : Identifiers) (element : String)
    (names : List String) : Under [.duplicateId] (identifiers.declareAll element names).2 := by
  induction names generalizing identifiers with
  | nil => exact .nil _
  | cons name rest ofRest =>
    rw [declareAll]
    dsimp only
    split
    · exact .cons (List.mem_singleton.mpr rfl) (ofRest _)
    · exact ofRest _

theorem Identifiers.take_under (identifiers : Identifiers) (element : String) (value : Value)
    (kind : IdKind) : Under [.duplicateId] (identifiers.take element value kind).2 := by
  cases kind with
  | none => exact .nil _
  | declares => exact identifiers.declareAll_under element value.itemTexts
  | refers => exact .nil _

/-! ### Attributes -/

namespace AttributeContext

variable (context : AttributeContext)

theorem checkFixed_under {rule : Rule} {rules : List Rule} (listed : rule ∈ rules)
    (type : SimpleType) (member : Attribute) (value : Value)
    (constraint : Option ValueConstraint) :
    Under rules (context.checkFixed rule type member value constraint) := by
  unfold checkFixed
  split
  · exact .nil _
  · split
    · exact .nil _
    · exact .one listed ..

theorem checkValue_under (member : Attribute)
    (declaration : AttributeDeclaration TypeReference) (ofUse : Option ValueConstraint) :
    Under Rule.ofAttributes (context.checkValue member declaration ofUse).2 := by
  unfold checkValue
  dsimp only
  split
  · exact .one (by decide) ..
  · exact (context.checkFixed_under (by decide) ..).append
      (context.checkFixed_under (by decide) ..)

theorem checkWildcardId_under (earlier : Option String)
    (declaration : AttributeDeclaration TypeReference) :
    Under Rule.ofAttributes (context.checkWildcardId earlier declaration).2 := by
  unfold checkWildcardId
  split
  · exact .nil _
  · split
    · exact .nil _
    · exact .one (by decide) ..

theorem checkEach_under (group : AttributeGroup TypeReference) (wildcardId : Option String)
    (attributes : Attributes) :
    Under Rule.ofAttributes (context.checkEach group wildcardId attributes).2.2 := by
  induction attributes generalizing wildcardId with
  | nil => exact .nil _
  | cons member rest ofRest =>
    rw [checkEach]
    dsimp only
    refine .append ?_ (ofRest _)
    split
    · exact .nil _
    · exact .one (by decide) ..
    · exact context.checkValue_under ..
    · exact (context.checkWildcardId_under ..).append (context.checkValue_under ..)

theorem checkRequired_under (group : AttributeGroup TypeReference) (attributes : Attributes) :
    Under Rule.ofAttributes (context.checkRequired group attributes) := by
  refine ⟨fun diagnostic member => ?_⟩
  obtain ⟨use, -, found⟩ := List.mem_filterMap.mp member
  split at found
  · cases found
  · obtain rfl := Option.some.inj found
    show Rule.requiredAttributeMissing ∈ Rule.ofAttributes
    decide

theorem checkBothIds_under (group : AttributeGroup TypeReference)
    (wildcardId : Option String) :
    Under Rule.ofAttributes (context.checkBothIds group wildcardId) := by
  unfold checkBothIds
  split
  · exact .one (by decide) ..
  · exact .nil _

theorem checkNone_under (attributes : Attributes) :
    Under Rule.ofAttributes (context.checkNone attributes) := by
  refine ⟨fun diagnostic member => ?_⟩
  obtain ⟨given, -, rfl⟩ := List.mem_map.mp member
  show Rule.simpleTypeAttribute ∈ Rule.ofAttributes
  decide

/-- Attributes are checked under rules of their own. -/
theorem assess_under (isValidating : Bool) (group : Option (AttributeGroup TypeReference))
    (attributes : Attributes) :
    Under Rule.ofAttributes (context.assess isValidating group attributes).2.2 := by
  unfold assess
  split
  · dsimp only
    split
    · exact context.checkNone_under attributes
    · exact .nil _
  · dsimp only
    split
    · exact ((context.checkEach_under ..).append (context.checkRequired_under ..)).append
        (context.checkBothIds_under ..)
    · exact .nil _

end AttributeContext

namespace Validator

/-! ### Start tags -/

section Start

variable (validator : Validator) (element : String)

theorem followHint_under (space : Option String) (hint : String) :
    Under [.schemaLoad] (validator.followHint element space hint).2 := by
  unfold followHint
  split
  · exact .nil _
  · dsimp only
    split
    · exact .nil _
    · exact .one (by decide) ..

theorem followHints_under (hints : List (Option String × String)) :
    Under [.schemaLoad] (validator.followHints element hints).2 := by
  induction hints generalizing validator with
  | nil => exact .nil _
  | cons hint rest ofRest =>
    obtain ⟨space, hint⟩ := hint
    exact .append (validator.followHint_under element space hint) (ofRest _)

theorem loadHinted_under (attributes : Attributes) :
    Under [.schemaLoad] (validator.loadHinted element attributes).2 := by
  unfold loadHinted
  split
  · exact validator.followHints_under element _
  · exact .nil _

theorem rejection_under (admission : Admission) :
    Under [.invalidChild] (rejection element admission) := by
  unfold rejection
  split
  · exact .one (by decide) ..
  · exact .nil _

theorem chosenType_under (declaration : Option KnownElement) (declared : Option KnownType)
    (value : String) :
    Under Rule.ofChosenTypes (validator.chosenType element declaration declared value).2 := by
  unfold chosenType
  dsimp only
  split
  · split
    · exact .one (by decide) ..
    · exact .nil _
    · split
      · exact .nil _
      · exact .one (by decide) ..
  · exact .one (by decide) ..

theorem governingType_under (declaration : Option KnownElement) (attributes : Attributes) :
    Under Rule.ofChosenTypes (validator.governingType element declaration attributes).2 := by
  unfold governingType
  dsimp only
  split
  · exact validator.chosenType_under ..
  · exact .nil _

theorem abstractDeclaration_under (declaration : Option KnownElement) :
    Under [.abstractElement] (abstractDeclaration element declaration) := by
  unfold abstractDeclaration
  split
  · exact .one (by decide) ..
  · exact .nil _

theorem undeclared_under (isStrict : Bool) :
    Under [.elementNotDeclared, .strictWildcardUndeclared]
      (validator.undeclared element isStrict) := by
  unfold undeclared
  split
  · exact .one (by decide) ..
  · split
    · exact .one (by decide) ..
    · exact .nil _

theorem abstractType_under (type : KnownType) :
    Under [.abstractType] (abstractType element type) := by
  unfold abstractType
  split
  · exact .one (by decide) ..
  · exact .nil _

theorem claimNil_under (declaration : Option KnownElement) (attributes : Attributes) :
    Under Rule.ofNilClaims (validator.claimNil element declaration attributes).found := by
  unfold claimNil
  split
  · exact .nil _
  · split
    · unfold nilClaim
      split
      · dsimp only
        split
        · exact .one (by decide) ..
        · exact .nil _
      · exact .nil _
      · exact .one (by decide) ..
    · exact .one (by decide) ..
  · exact .one (by decide) ..

theorem takeIdentifiers_under (identifiers : Identifiers)
    (typed : List (Option TypedAttribute)) :
    Under [.duplicateId] (takeIdentifiers identifiers element typed).2 := by
  induction typed generalizing identifiers with
  | nil => exact .nil _
  | cons first rest ofRest =>
    cases first with
    | none => exact ofRest identifiers
    | some value => exact .append (identifiers.take_under ..) (ofRest _)

end Start

/-! ### End tags -/

section Finish

variable (validator : Validator) (element : String)

theorem checkValue_under (type : SimpleType) (text : String) :
    Under [.simpleTypeValue] (validator.checkValue element type text).2 := by
  unfold checkValue
  split
  · exact .nil _
  · exact .one (by decide) ..

theorem checkComplete_under (content : Option OpenContent) :
    Under [.incompleteContent] (checkComplete element content) := by
  unfold checkComplete
  split
  · split
    · exact .nil _
    · exact .one (by decide) ..
  · exact .nil _

/-- The types with a content model are the complex ones whose elements have children. -/
theorem contentModel?_isSome (type : ComplexType) :
    (contentModel? (.complex type)).isSome =
      match type.content with
      | .elementOnly | .mixed => true
      | .empty | .simple => false := by
  rw [contentModel?, ComplexType.contentGroup?, Option.isSome_map]
  cases type.content <;> rfl

/-- What is found about the content of an element: something about its text or about there being
children, and then, where its type has a content model, that the content ends too soon. -/
theorem checkContent_found (frame : Frame) (type : TypeDefinition) (text : String) :
    ∃ found, Under Rule.ofContent found ∧ (validator.checkContent frame type text).2 =
      found ++ if (contentModel? type).isSome then checkComplete frame.raw frame.content
        else [] := by
  have ofValue (simple : SimpleType) :
      Under Rule.ofContent (validator.checkValue frame.raw simple text).2 :=
    (validator.checkValue_under frame.raw simple text).mono (by decide)
  cases type with
  | simple type =>
    refine ⟨_, ?_, (List.append_nil _).symm⟩
    unfold checkContent
    dsimp only
    split
    · exact .one (by decide) ..
    · exact ofValue type
  | complex type =>
    rw [contentModel?_isSome]
    unfold checkContent
    dsimp only
    cases type.content with
    | empty =>
      refine ⟨_, ?_, (List.append_nil _).symm⟩
      dsimp only
      split
      · exact .one (by decide) ..
      · exact .nil _
    | simple =>
      refine ⟨_, ?_, (List.append_nil _).symm⟩
      dsimp only
      split
      · exact .one (by decide) ..
      · exact ofValue _
    | elementOnly =>
      refine ⟨_, ?_, rfl⟩
      split
      · exact .one (by decide) ..
      · exact .nil _
    | mixed => exact ⟨[], .nil _, rfl⟩

theorem checkSupplied_under (declaration : KnownElement) (type : KnownType) (text : String) :
    Under [.invalidDefaultForType]
      (validator.checkSupplied element declaration type text) := by
  unfold checkSupplied
  split
  · exact .nil _
  · exact .one (by decide) ..

theorem checkFixed_under (frame : Frame) (type : TypeDefinition) (value : Option Value)
    (fixed : String) : Under Rule.ofFixedValues (validator.checkFixed frame type value fixed) := by
  unfold checkFixed
  dsimp only
  repeat' split
  all_goals first | exact .nil _ | exact .one (by decide) ..

/-- What is found about the content of an element that is not nil. Besides that the content ends too
soon, this is about its text, its value and there being children. -/
theorem assessPresent_found (frame : Frame) (type : KnownType) :
    ∃ before after,
      Under (Rule.invalidDefaultForType :: Rule.ofContent) before ∧
        Under Rule.ofFixedValues after ∧ (validator.assessPresent frame type).2 =
          before ++ (if (contentModel? type.definition).isSome
            then checkComplete frame.raw frame.content else []) ++ after := by
  unfold assessPresent
  dsimp only
  split
  · rename_i declaration constraint _ _ _
    obtain ⟨found, ofContent, same⟩ := validator.checkContent_found frame type.definition
      (((validator.valueType? type.definition).map fun simple =>
        simple.normalize constraint.text).getD constraint.text)
    refine ⟨validator.checkSupplied frame.raw declaration type constraint.text ++ found, [],
      ?_, .nil _, ?_⟩
    · exact ((validator.checkSupplied_under frame.raw declaration type constraint.text).mono
        (by decide)).append (ofContent.mono (by decide))
    · rw [List.append_nil, List.append_assoc, ← same]
      rfl
  · obtain ⟨found, ofContent, same⟩ :=
      validator.checkContent_found frame type.definition frame.text
    refine ⟨found, _, ofContent.mono (by decide), ?_, congrArg (· ++ _) same⟩
    cases (frame.declaration.bind fun found => found.declaration.constraint).bind
      ValueConstraint.fixed? with
    | none => exact .nil _
    | some fixed => exact validator.checkFixed_under ..

/-- The content of an element is checked under rules of its own. -/
theorem assessContent_under (frame : Frame) :
    Under ([.nilWithContent, .incompleteContent, .invalidDefaultForType] ++ Rule.ofContent ++
      Rule.ofFixedValues) (validator.assessContent frame).2 := by
  unfold assessContent
  cases frame.type with
  | none => exact .nil _
  | some type =>
    dsimp only
    split
    · exact .nil _
    · split
      · dsimp only
        split
        · exact .nil _
        · exact .one (by decide) ..
      · obtain ⟨before, after, ofBefore, ofAfter, same⟩ := validator.assessPresent_found frame type
        rw [same]
        refine .append (.append (ofBefore.mono (by decide)) ?_) (ofAfter.mono (by decide))
        split
        · exact (checkComplete_under ..).mono (by decide)
        · exact .nil _

theorem assessContent_ordinary (frame : Frame) : Ordinary (validator.assessContent frame).2 :=
  (validator.assessContent_under frame).ordinary (by decide)

theorem checkReferences_under :
    Under [.unresolvedIdref] (validator.checkReferences element) := by
  unfold checkReferences
  split
  · refine ⟨fun diagnostic member => ?_⟩
    obtain ⟨identifier, -, rfl⟩ := List.mem_map.mp member
    exact List.mem_singleton.mpr rfl
  · exact .nil _

end Finish

end Validator

end SchemaAssessment

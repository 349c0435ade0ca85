/-
Names spelled with other prefixes. An attribute whose name has another prefix is governed,
checked and supplied like before, unless it is named like the declaration of a namespace: by
such a prefix alone an attribute is not looked at. And what an element holds is assessed
without regard to its name as written, which goes into the texts of findings and nowhere else.
-/

import SchemaAssessment.Proofs.Assessment.Repetition
import SchemaAssessment.Proofs.Identity.Wording

namespace SchemaAssessment

/-! ### Other prefixes -/

namespace Attribute

/-- The other attribute is the same, but for the prefix of its name. -/
structure Respells (member other : Attribute) : Prop where
  expanded : other.expanded = member.expanded
  value : other.value = member.value
  isSpecified : other.isSpecified = member.isSpecified

/-- The attribute is named like the declaration of a namespace. -/
def IsNamedXmlns (member : Attribute) : Prop :=
  member.name.namePrefix = some "xmlns" ∨
    member.name.namePrefix = none ∧ member.name.localName = "xmlns"

/-- The other attribute is the same, but for the prefix of its name, and this does not make the one
special and the other not. -/
structure CountsAs (member other : Attribute) : Prop extends member.Respells other where
  isSpecial : other.isSpecial = member.isSpecial

theorem CountsAs.refl (member : Attribute) : member.CountsAs member := ⟨⟨rfl, rfl, rfl⟩, rfl⟩

theorem isSpecial_of_plain {member : Attribute} (plain : ¬ member.IsNamedXmlns) :
    member.isSpecial = if member.expanded.space == some instanceNamespace then
        instanceNames.contains member.expanded.localName
      else member.expanded.space == some declarationNamespace := by
  unfold IsNamedXmlns at plain
  push Not at plain
  have byPrefix : (member.name.namePrefix == some "xmlns" ||
      (member.name.namePrefix.isNone && member.name.localName == "xmlns")) = false := by
    simpa using plain
  unfold isSpecial
  rw [byPrefix]
  dsimp only [expanded, QualifiedName.expanded]
  cases member.name.space == some declarationNamespace <;> rfl

theorem Respells.countsAs {member other : Attribute} (same : member.Respells other)
    (plain : ¬ member.IsNamedXmlns) (plainOther : ¬ other.IsNamedXmlns) :
    member.CountsAs other := by
  refine ⟨same, ?_⟩
  rw [isSpecial_of_plain plain, isSpecial_of_plain plainOther, same.expanded]

end Attribute

namespace Attributes

/-- The attributes are the same one by one, but for their prefixes. -/
def CountAs (attributes others : Attributes) : Prop :=
  List.Forall₂ Attribute.CountsAs attributes others

namespace CountAs

variable {attributes others : Attributes}

theorem refl (attributes : Attributes) : attributes.CountAs attributes :=
  List.forall₂_same.mpr fun member _ => .refl member

theorem append (same : attributes.CountAs others) (more : Attributes) :
    CountAs (attributes ++ more) (others ++ more) :=
  List.rel_append same (refl more)

theorem has (same : attributes.CountAs others) (name : ExpandedName) :
    others.has name = attributes.has name := by
  induction same with
  | nil => rfl
  | cons first _ ofRest =>
    unfold Attributes.has at ofRest ⊢
    rw [List.any_cons, List.any_cons, first.expanded, ofRest]

theorem speakAlike (same : attributes.CountAs others) : attributes.SpeakAlike others := by
  intro localName _
  induction same with
  | nil => rfl
  | cons first _ ofRest =>
    unfold value? at ofRest ⊢
    rw [List.find?_cons, List.find?_cons, first.expanded]
    split
    · exact congrArg some first.value
    · exact ofRest

theorem expanded (same : attributes.CountAs others) :
    others.map Attribute.expanded = attributes.map Attribute.expanded := by
  induction same with
  | nil => rfl
  | cons first _ ofRest => rw [List.map_cons, List.map_cons, first.expanded, ofRest]

theorem values (same : attributes.CountAs others) :
    others.map Attribute.value = attributes.map Attribute.value := by
  induction same with
  | nil => rfl
  | cons first _ ofRest => rw [List.map_cons, List.map_cons, first.value, ofRest]

theorem supply {τ : Type} (same : attributes.CountAs others) (group : AttributeGroup τ) :
    CountAs (group.supply attributes) (group.supply others) := by
  obtain ⟨supplied, here, there⟩ := group.supply_of_has same.has
  rw [here, there]
  exact same.append supplied

end CountAs

end Attributes

namespace Event

/-- The other event is the same, but for the prefixes of the names of elements and attributes. -/
inductive Respells : Event → Event → Prop where
  | startElement {name other : QualifiedName} {attributes others : Attributes}
      (named : other.expanded = name.expanded)
      (same : List.Forall₂ Attribute.Respells attributes others) :
      Respells (.startElement name attributes) (.startElement other others)
  | endElement {name other : QualifiedName} (named : other.expanded = name.expanded) :
      Respells (.endElement name) (.endElement other)
  | refl (event : Event) : Respells event event

/-- No attribute on the event is named like the declaration of a namespace. -/
def IsPlain (event : Event) : Prop :=
  ∀ attributes ∈ event.attributes?, ∀ member ∈ attributes, ¬ member.IsNamedXmlns

end Event

theorem Attributes.CountAs.of_respells {attributes others : Attributes}
    (same : List.Forall₂ Attribute.Respells attributes others)
    (plain : ∀ member ∈ attributes, ¬ member.IsNamedXmlns)
    (plainOther : ∀ member ∈ others, ¬ member.IsNamedXmlns) : attributes.CountAs others := by
  induction same with
  | nil => exact .nil
  | cons first _ ofRest =>
    obtain ⟨here, later⟩ := List.forall_mem_cons.mp plain
    obtain ⟨hereOther, laterOther⟩ := List.forall_mem_cons.mp plainOther
    exact .cons (first.countsAs here hereOther) (ofRest later laterOther)

theorem Attributes.CountAs.respells {attributes others : Attributes}
    (same : attributes.CountAs others) : List.Forall₂ Attribute.Respells attributes others :=
  List.Forall₂.imp (fun _ _ counts => counts.toRespells) same

/-- Start tags with attributes that are the same one by one, but for their prefixes, mean the same. -/
theorem ElementStart.MeansTheSame.ofAttributes {event other : ElementStart}
    (name : other.name = event.name) (same : event.attributes.CountAs other.attributes)
    (values : other.values = event.values)
    (declaration : other.declaration = event.declaration) : event.MeansTheSame other where
  name := name
  attributeNames := same.expanded
  attributeValue := by
    funext index
    have texts : other.attributes[index]?.map Attribute.value =
        event.attributes[index]?.map Attribute.value := by
      rw [← List.getElem?_map, ← List.getElem?_map, same.values]
    have strings := congrArg (Option.map Value.string) texts
    rw [Option.map_map, Option.map_map] at strings
    unfold attributeValue?
    rw [values]
    exact congrArg _ strings
  declaration := declaration

/-! ### Attributes under a type -/

theorem Registry.governor_countsAs {member other : Attribute} (same : member.CountsAs other)
    (registry : Registry) (group : AttributeGroup TypeReference) :
    registry.governor group other = registry.governor group member := by
  have space : other.name.space = member.name.space := congrArg ExpandedName.space same.expanded
  unfold governor
  rw [same.isSpecial, same.expanded, space]

namespace AttributeContext

variable (registry : Registry) (scopes : NamespaceScopes) (element shown : String)

theorem checkFixed_wording (rule : Rule) (type : SimpleType) (member other : Attribute)
    (value : Value) (constraint : Option ValueConstraint) :
    SameRules (checkFixed ⟨registry, scopes, element⟩ rule type member value constraint)
      (checkFixed ⟨registry, scopes, shown⟩ rule type other value constraint) := by
  unfold checkFixed
  split
  · rfl
  · dsimp only
    split <;> rfl

theorem checkValue_wording {member other : Attribute} (same : member.CountsAs other)
    (declaration : AttributeDeclaration TypeReference) (ofUse : Option ValueConstraint) :
    SameButTexts (checkValue ⟨registry, scopes, element⟩ member declaration ofUse)
      (checkValue ⟨registry, scopes, shown⟩ other declaration ofUse) := by
  unfold checkValue
  dsimp only
  rw [same.value]
  split
  · exact ⟨rfl, rfl⟩
  · exact ⟨rfl, (checkFixed_wording ..).append (checkFixed_wording ..)⟩

theorem checkWildcardId_wording (earlier : Option String)
    (declaration : AttributeDeclaration TypeReference) :
    SameButTexts (checkWildcardId ⟨registry, scopes, element⟩ earlier declaration)
      (checkWildcardId ⟨registry, scopes, shown⟩ earlier declaration) := by
  unfold checkWildcardId
  dsimp only
  split
  · exact ⟨rfl, rfl⟩
  · split <;> exact ⟨rfl, rfl⟩

variable {attributes others : Attributes} (same : attributes.CountAs others)

include same

theorem checkEach_wording (group : AttributeGroup TypeReference) (wildcardId : Option String) :
    let first := checkEach ⟨registry, scopes, element⟩ group wildcardId attributes
    let second := checkEach ⟨registry, scopes, shown⟩ group wildcardId others
    second.1 = first.1 ∧ second.2.1 = first.2.1 ∧ SameRules first.2.2 second.2.2 := by
  induction same generalizing wildcardId with
  | nil => exact ⟨rfl, rfl, rfl⟩
  | @cons member other rest restOther first _ ofRest =>
    rw [checkEach, checkEach]
    dsimp only
    rw [Registry.governor_countsAs first]
    cases registry.governor group member with
    | use use =>
      obtain ⟨typed, found⟩ :=
        checkValue_wording registry scopes element shown first use.declaration use.constraint
      obtain ⟨later, id, more⟩ := ofRest wildcardId
      dsimp only
      rw [typed, later]
      exact ⟨rfl, id, found.append more⟩
    | declaration declaration =>
      obtain ⟨typed, found⟩ :=
        checkValue_wording registry scopes element shown first declaration none
      obtain ⟨next, repeated⟩ :=
        checkWildcardId_wording registry scopes element shown wildcardId declaration
      obtain ⟨later, id, more⟩ :=
        ofRest (checkWildcardId ⟨registry, scopes, element⟩ wildcardId declaration).1
      dsimp only
      rw [typed, next, later]
      exact ⟨rfl, id, (repeated.append found).append more⟩
    | nothing =>
      obtain ⟨later, id, more⟩ := ofRest wildcardId
      dsimp only
      rw [later]
      exact ⟨rfl, id, more⟩
    | refusal =>
      obtain ⟨later, id, more⟩ := ofRest wildcardId
      dsimp only
      rw [later]
      exact ⟨rfl, id, SameRules.append rfl more⟩

theorem checkRequired_wording (group : AttributeGroup TypeReference) :
    SameRules (checkRequired ⟨registry, scopes, element⟩ group attributes)
      (checkRequired ⟨registry, scopes, shown⟩ group others) := by
  have given (name : ExpandedName) :
      (others.any fun member => member.isSpecified && member.expanded == name) =
        attributes.any fun member => member.isSpecified && member.expanded == name := by
    induction same with
    | nil => rfl
    | cons first _ ofRest =>
      rw [List.any_cons, List.any_cons, first.isSpecified, first.expanded, ofRest]
  unfold SameRules checkRequired
  rw [List.map_filterMap, List.map_filterMap]
  congr 1
  funext use
  rw [given]
  split <;> rfl

theorem checkNone_wording :
    SameRules (checkNone ⟨registry, scopes, element⟩ attributes)
      (checkNone ⟨registry, scopes, shown⟩ others) := by
  unfold checkNone
  induction same with
  | nil => rfl
  | cons first _ ofRest =>
    rw [List.filter_cons, List.filter_cons, first.isSpecial]
    split
    · exact congrArg (Rule.simpleTypeAttribute :: ·) ofRest
    · exact ofRest

omit same in
theorem checkBothIds_wording (group : AttributeGroup TypeReference) (wildcardId : Option String) :
    SameRules (checkBothIds ⟨registry, scopes, element⟩ group wildcardId)
      (checkBothIds ⟨registry, scopes, shown⟩ group wildcardId) := by
  have declared : declaredId? ⟨registry, scopes, shown⟩ group =
      declaredId? ⟨registry, scopes, element⟩ group := rfl
  unfold checkBothIds
  rw [declared]
  split <;> rfl

theorem check_wording (group : AttributeGroup TypeReference) :
    SameButTexts (check ⟨registry, scopes, element⟩ group attributes)
      (check ⟨registry, scopes, shown⟩ group others) := by
  obtain ⟨typed, id, found⟩ := checkEach_wording registry scopes element shown same group none
  unfold check
  refine ⟨typed, ?_⟩
  dsimp only
  rw [id]
  exact (found.append (checkRequired_wording registry scopes element shown same group)).append
    (checkBothIds_wording ..)

/-- The same attributes are supplied, with the same values, whatever the prefixes are. -/
theorem assess_wording (isValidating : Bool) (group : Option (AttributeGroup TypeReference)) :
    let first := assess ⟨registry, scopes, element⟩ isValidating group attributes
    let second := assess ⟨registry, scopes, shown⟩ isValidating group others
    first.1.CountAs second.1 ∧ SameButTexts first.2 second.2 := by
  have nothing {left right : Attributes} (same : left.CountAs right) :
      right.map (fun _ => (none : Option TypedAttribute)) = left.map fun _ => none := by
    rw [List.map_const', List.map_const', List.Forall₂.length_eq same]
  cases group with
  | none =>
    refine ⟨same, nothing same, ?_⟩
    unfold assess
    dsimp only
    split
    · exact checkNone_wording registry scopes element shown same
    · rfl
  | some group =>
    have supplied := same.supply group
    unfold assess
    dsimp only
    split
    · exact ⟨supplied, check_wording registry scopes element shown supplied group⟩
    · exact ⟨supplied, nothing supplied, rfl⟩

end AttributeContext

/-! ### What elements hold -/

namespace Validator

variable (validator : Validator) (frame : Frame) (name : QualifiedName)

theorem checkValue_wording (element shown : String) (type : SimpleType) (text : String) :
    SameButTexts (validator.checkValue element type text)
      (validator.checkValue shown type text) := by
  unfold checkValue
  split <;> exact ⟨rfl, rfl⟩

theorem checkComplete_wording (element shown : String) (content : Option OpenContent) :
    SameRules (checkComplete element content) (checkComplete shown content) := by
  unfold checkComplete
  split
  · split <;> rfl
  · rfl

theorem checkContent_respells (type : TypeDefinition) (text : String) :
    SameButTexts (validator.checkContent frame type text)
      (validator.checkContent { frame with name } type text) := by
  unfold checkContent
  dsimp only
  split
  · split
    · exact ⟨rfl, rfl⟩
    · exact checkValue_wording ..
  · split
    · refine ⟨rfl, ?_⟩
      dsimp only
      split <;> rfl
    · split
      · exact ⟨rfl, rfl⟩
      · exact checkValue_wording ..
    · refine ⟨rfl, SameRules.append ?_ (checkComplete_wording ..)⟩
      split <;> rfl
    · exact ⟨rfl, checkComplete_wording ..⟩

theorem supplyContent_respells (declaration : KnownElement) (type : KnownType) (text : String) :
    SameButTexts (validator.supplyContent frame declaration type text)
      (validator.supplyContent { frame with name } declaration type text) := by
  obtain ⟨typed, found⟩ := validator.checkContent_respells frame name type.definition
    (((validator.valueType? type.definition).map fun simple => simple.normalize text).getD text)
  have suits : SameRules (validator.checkSupplied frame.raw declaration type text)
      (validator.checkSupplied name.raw declaration type text) := by
    unfold checkSupplied
    split <;> rfl
  unfold supplyContent
  dsimp only
  rw [typed]
  exact ⟨rfl, suits.append found⟩

theorem checkFixed_respells (type : TypeDefinition) (value : Option Value) (fixed : String) :
    SameRules (validator.checkFixed frame type value fixed)
      (validator.checkFixed { frame with name } type value fixed) := by
  unfold checkFixed
  dsimp only
  -- a simple type, or a complex one: then by children, by mixed content, and by the value
  split
  · split
    · split <;> rfl
    · rfl
  · split
    · rfl
    · split
      · split <;> rfl
      · split
        · split <;> rfl
        · rfl

theorem assessPresent_respells (type : KnownType) :
    SameButTexts (validator.assessPresent frame type)
      (validator.assessPresent { frame with name } type) := by
  unfold assessPresent
  dsimp only
  have bare : Frame.isBare { frame with name } = frame.isBare := rfl
  rw [bare]
  split
  · exact supplyContent_respells ..
  · obtain ⟨typed, found⟩ :=
      validator.checkContent_respells frame name type.definition frame.text
    rw [typed]
    refine ⟨rfl, found.append ?_⟩
    cases (frame.declaration.bind fun found => found.declaration.constraint).bind
      ValueConstraint.fixed? with
    | none => rfl
    | some fixed => exact checkFixed_respells ..

/-- What an element holds is assessed alike under another name as written. -/
theorem assessContent_respells :
    SameButTexts (validator.assessContent frame) (validator.assessContent { frame with name }) := by
  unfold assessContent
  dsimp only
  split
  · exact ⟨rfl, rfl⟩
  · split
    · exact ⟨rfl, rfl⟩
    · split
      · refine ⟨rfl, ?_⟩
        have bare : Frame.isBare { frame with name } = frame.isBare := rfl
        dsimp only
        rw [bare]
        split <;> rfl
      · exact assessPresent_respells ..

end Validator

end SchemaAssessment

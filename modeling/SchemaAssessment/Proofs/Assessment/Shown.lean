/-
What a validator shows to identity constraints. A start tag is shown if its element is
assessed and findings are told: it is not inside a subtree that is passed through, its
parent does not reject it, and something gives it a type. An end tag is shown if the
element that it closes is assessed. Whatever else an event does, the engine of identity
constraints reads these tags and nothing more, and every finding under its rules is its
own.
-/

import SchemaAssessment.Assessment.Run
import SchemaAssessment.Proofs.Assessment.Findings
import SchemaAssessment.Proofs.Identity.Bearer

namespace SchemaAssessment

/-- An event between the beginning and the end of a document. -/
def Event.isWithin : Event → Bool
  | .startDocument | .endDocument => false
  | _ => true

namespace Validator

/-! ### Tags that are shown -/

/-- The validator one element deeper. -/
def deeper (validator : Validator) : Validator :=
  { validator with depth := validator.depth + 1 }

/-- The validator that looks at a start tag: one element deeper, with the bindings of the tag. -/
def entered (validator : Validator) : Validator := validator.deeper.bindPending

/-- The validator that assesses a start tag: it has followed the hints and knows whether findings
are told. -/
def prepared (validator : Validator) (name : QualifiedName) (attributes : Attributes) :
    Validator :=
  (validator.entered.beginRoot.loadHinted name.raw attributes).1.decideDynamic name.space

/-- A start tag with the attributes that are supplied, as it is once its element has a type. -/
def typedStart (validator : Validator) (name : QualifiedName) (attributes : Attributes)
    (declaration : Option KnownElement) (type : KnownType) : ElementStart :=
  let context : AttributeContext := ⟨validator.registry, validator.scopes, name.raw⟩
  let assessed := context.assess validator.isValidating (attributesOf type.definition) attributes
  { name := name.expanded, shown := name.raw, attributes := assessed.1
    values := assessed.2.1.map fun typed => typed.map TypedAttribute.value
    declaration := declaration.map KnownElement.declaration }

/-- The start tag of an element that is assessed. There is none if the parent rejects the element or
leaves it aside, and if nothing gives it a type. -/
def assessedStart? (validator : Validator) (name : QualifiedName) (attributes : Attributes) :
    Option ElementStart :=
  let offered := (validator.offer name.expanded).1
  match (validator.offer name.expanded).2.receive offered.registry name.expanded with
  | .skipped => none
  | .assessed declaration _ =>
    (offered.governingType name.raw declaration attributes).1.map
      (offered.typedStart name attributes declaration)

/-- The start tag that is shown to identity constraints. -/
def shownStart? (validator : Validator) (name : QualifiedName) (attributes : Attributes) :
    Option ElementStart :=
  let prepared := validator.prepared name attributes
  if (validator.deeper.checkLimits attributes).isOk && !validator.isSkipping &&
      prepared.isValidating then
    prepared.assessedStart? name attributes
  else none

/-- The value with which the innermost element ends, and its name, as they are shown to identity
constraints. -/
def shownFinish? (validator : Validator) : Option (Option Value × String) :=
  match validator.skipDepth, validator.frames with
  | none, frame :: _ =>
    if validator.isValidating then
      some (identityValue frame (validator.assessContent frame).1, frame.raw)
    else none
  | _, _ => none

/-- The tag that is shown to identity constraints at an event, if there is one. -/
def shown? (validator : Validator) : Event → Option AssessedTag
  | .startElement name attributes => (validator.shownStart? name attributes).map .start
  | .endElement _ => validator.shownFinish?.map fun (value, shown) => .finish value shown
  | _ => none

/-- The tags that are shown to identity constraints along some events. -/
def tags (validator : Validator) : List Event → List AssessedTag
  | [] => []
  | event :: rest => (validator.shown? event).toList ++ (validator.step event).validator.tags rest

/-! ### Before an element is received -/

/-- A validator with the same open elements as another, and with the same identity constraints at
work. Below the root it also tells its findings if and only if the other does. -/
structure Keeps (validator other : Validator) : Prop where
  frames : validator.frames = other.frames
  depth : validator.depth = other.depth
  skipDepth : validator.skipDepth = other.skipDepth
  identities : validator.identities = other.identities
  isValidating : other.frames ≠ [] → validator.isValidating = other.isValidating

theorem isAtRoot_eq_false {validator : Validator} (below : validator.frames ≠ []) :
    validator.isAtRoot = false :=
  List.isEmpty_eq_false_iff.mpr below

theorem beginRoot_eq (validator : Validator) :
    ∃ isValidating, validator.beginRoot = { validator with isValidating } ∧
      (validator.frames ≠ [] → isValidating = validator.isValidating) := by
  unfold beginRoot
  split
  · rename_i atRoot
    exact ⟨_, rfl, fun below =>
      absurd (atRoot.symm.trans (isAtRoot_eq_false below)) Bool.true_eq_false.mp⟩
  · exact ⟨_, rfl, fun _ => rfl⟩

theorem followHint_eq (validator : Validator) (element : String) (space : Option String)
    (hint : String) : ∃ registry attempted,
      (validator.followHint element space hint).1 = { validator with registry, attempted } := by
  unfold followHint
  split
  · exact ⟨_, _, rfl⟩
  · dsimp only
    split <;> exact ⟨_, _, rfl⟩

theorem followHints_eq (validator : Validator) (element : String)
    (hints : List (Option String × String)) : ∃ registry attempted,
      (validator.followHints element hints).1 = { validator with registry, attempted } := by
  induction hints generalizing validator with
  | nil => exact ⟨_, _, rfl⟩
  | cons hint rest ofRest =>
    obtain ⟨space, hint⟩ := hint
    obtain ⟨registry, attempted, first⟩ := validator.followHint_eq element space hint
    obtain ⟨others, tried, same⟩ := ofRest (validator.followHint element space hint).1
    refine ⟨others, tried, ?_⟩
    rw [followHints]
    exact same.trans (by rw [first])

theorem loadHinted_eq (validator : Validator) (element : String) (attributes : Attributes) :
    ∃ registry attempted,
      (validator.loadHinted element attributes).1 = { validator with registry, attempted } := by
  unfold loadHinted
  split
  · exact validator.followHints_eq element _
  · exact ⟨_, _, rfl⟩

theorem decideDynamic_eq (validator : Validator) (space : Option String) :
    ∃ isValidating, validator.decideDynamic space = { validator with isValidating } ∧
      (validator.frames ≠ [] → isValidating = validator.isValidating) := by
  unfold decideDynamic
  split
  · rename_i decides
    refine ⟨_, rfl, fun below => ?_⟩
    rw [isAtRoot_eq_false below] at decides
    cases decides
  · exact ⟨_, rfl, fun _ => rfl⟩

/-- Up to the moment when an element is received, a validator learns of grammars and, at the root,
decides whether it tells its findings, and that is all. -/
theorem prepared_eq (validator : Validator) (name : QualifiedName) (attributes : Attributes) :
    ∃ registry attempted isValidating, validator.prepared name attributes =
        { validator.entered with registry, attempted, isValidating } ∧
      (validator.frames ≠ [] → isValidating = validator.isValidating) := by
  obtain ⟨first, begun, begins⟩ := validator.entered.beginRoot_eq
  obtain ⟨registry, attempted, loaded⟩ := validator.entered.beginRoot.loadHinted_eq name.raw
    attributes
  obtain ⟨last, decided, decides⟩ := decideDynamic_eq
    (validator.entered.beginRoot.loadHinted name.raw attributes).1 name.space
  refine ⟨registry, attempted, last, ?_, fun below => ?_⟩
  · rw [prepared, decided, loaded, begun]
  · rw [loaded, begun] at decides
    exact (decides below).trans (begins below)

/-- Up to the moment when an element is received, nothing happens to the open ones. -/
theorem prepared_keeps (validator : Validator) (name : QualifiedName) (attributes : Attributes) :
    (validator.prepared name attributes).Keeps validator.deeper := by
  obtain ⟨registry, attempted, isValidating, same, below⟩ := validator.prepared_eq name attributes
  rw [same]
  exact ⟨rfl, rfl, rfl, rfl, below⟩

theorem offer_identities (validator : Validator) (name : ExpandedName) :
    (validator.offer name).1.identities = validator.identities := by
  unfold offer
  split <;> rfl

theorem offer_isValidating (validator : Validator) (name : ExpandedName) :
    (validator.offer name).1.isValidating = validator.isValidating := by
  unfold offer
  split <;> rfl

/-! ### Start tags -/

/-- The findings of identity constraints among those that are told. -/
theorem ofIdentity_told (isValidating : Bool) (found : List Diagnostic) :
    ofIdentity (told isValidating found) = if isValidating then ofIdentity found else [] := by
  unfold told
  split <;> rfl

theorem startIdentities_eq (validator : Validator) (event : ElementStart) :
    (validator.startIdentities event).1.identities =
        (if validator.isValidating then (validator.identities.start event).1
          else validator.identities) ∧
      (validator.startIdentities event).2 =
        if validator.isValidating then (validator.identities.start event).2 else [] := by
  unfold startIdentities
  split <;> exact ⟨rfl, rfl⟩

/-- Opening an element shows its start tag, if findings are told. -/
theorem openTyped_identities (validator : Validator) (name : QualifiedName)
    (attributes : Attributes) (declaration : Option KnownElement) (type : KnownType) :
    let event := validator.typedStart name attributes declaration type
    let opened := validator.openTyped name attributes declaration type
    opened.1.identities =
        (if validator.isValidating then (validator.identities.start event).1
          else validator.identities) ∧
      ofIdentity opened.2.2 =
        if validator.isValidating then ofIdentity (validator.identities.start event).2 else [] := by
  intro event opened
  let context : AttributeContext := ⟨validator.registry, validator.scopes, name.raw⟩
  let assessed := context.assess validator.isValidating (attributesOf type.definition) attributes
  let claim := validator.claimNil name.raw declaration attributes
  let taken := takeIdentifiers validator.identifiers name.raw assessed.2.1
  let frame : Frame := {
    name, declaration, type := some type
    content := (contentModel? type.definition).map OpenContent.start
    isNil := claim.isNil, isNilRefused := claim.isRefused }
  let ready : Validator :=
    { validator with identifiers := taken.1, frames := frame :: validator.frames }
  have others : Ordinary (abstractType name.raw type ++ claim.found ++ assessed.2.2 ++ taken.2) :=
    ((((abstractType_under name.raw type).ordinary (by decide)).append
      ((validator.claimNil_under name.raw declaration attributes).ordinary (by decide))).append
        ((context.assess_under ..).ordinary (by decide))).append
          ((takeIdentifiers_under ..).ordinary (by decide))
  have found : opened.2.2 =
      (abstractType name.raw type ++ claim.found ++ assessed.2.2 ++ taken.2) ++
      (ready.startIdentities event).2 := rfl
  obtain ⟨identities, reported⟩ := ready.startIdentities_eq event
  refine ⟨identities, ?_⟩
  rw [found, ofIdentity_append, others.ofIdentity_eq, List.nil_append, reported,
    apply_ite ofIdentity]
  rfl

/-- What receiving an element comes to: it is left aside, nothing gives it a type, or it is opened
under the type that governs it. -/
theorem receive_ways (validator : Validator) (name : QualifiedName) (attributes : Attributes) :
    let offered := (validator.offer name.expanded).1
    let admission := (validator.offer name.expanded).2
    let rejected := rejection name.raw admission
    (admission.receive offered.registry name.expanded = .skipped ∧
        validator.receive name attributes = (offered.enterSkip name, attributes, rejected)) ∨
      ∃ declaration isStrict,
        let governing := offered.governingType name.raw declaration attributes
        let before := rejected ++ (abstractDeclaration name.raw declaration ++ governing.2)
        admission.receive offered.registry name.expanded = .assessed declaration isStrict ∧
          ((governing.1 = none ∧ validator.receive name attributes =
              (offered.enterSkip name, attributes,
                before ++ offered.undeclared name.raw isStrict)) ∨
            ∃ type, governing.1 = some type ∧
              let opened := offered.openTyped name attributes declaration type
              validator.receive name attributes = (opened.1, opened.2.1, before ++ opened.2.2)) := by
  unfold receive
  dsimp only
  generalize validator.offer name.expanded = offered
  cases received : offered.2.receive offered.1.registry name.expanded with
  | skipped => exact .inl ⟨rfl, rfl⟩
  | assessed declaration isStrict =>
    refine .inr ⟨declaration, isStrict, rfl, ?_⟩
    unfold openElement
    dsimp only
    cases (offered.1.governingType name.raw declaration attributes).1 with
    | none => exact .inl ⟨rfl, by simp only [List.append_assoc]⟩
    | some type => exact .inr ⟨type, rfl, by simp only [List.append_assoc]⟩

/-- What receiving an element does: its subtree is passed through, or it is opened under a type. -/
theorem receive_cases (validator : Validator) (name : QualifiedName) (attributes : Attributes) :
    let offered := (validator.offer name.expanded).1
    let received := validator.receive name attributes
    (validator.assessedStart? name attributes = none ∧ received.1 = offered.enterSkip name ∧
        Ordinary received.2.2) ∨
      ∃ declaration type before,
        validator.assessedStart? name attributes =
            some (offered.typedStart name attributes declaration type) ∧
          received.1 = (offered.openTyped name attributes declaration type).1 ∧
            received.2.2 = before ++ (offered.openTyped name attributes declaration type).2.2 ∧
              Ordinary before := by
  have rejected : Ordinary (rejection name.raw (validator.offer name.expanded).2) :=
    (rejection_under ..).ordinary (by decide)
  have governing (declaration : Option KnownElement) : Ordinary
      (abstractDeclaration name.raw declaration ++
        ((validator.offer name.expanded).1.governingType name.raw declaration attributes).2) :=
    ((abstractDeclaration_under ..).ordinary (by decide)).append
      ((governingType_under ..).ordinary (by decide))
  unfold assessedStart?
  dsimp only
  rcases validator.receive_ways name attributes with ⟨aside, same⟩ |
    ⟨declaration, isStrict, assessed, ⟨untyped, same⟩ | ⟨type, governs, same⟩⟩
  · rw [same, aside]
    exact .inl ⟨rfl, rfl, rejected⟩
  · rw [same, assessed]
    refine .inl ⟨congrArg (Option.map _) untyped, rfl, ?_⟩
    exact (rejected.append (governing declaration)).append
      ((undeclared_under ..).ordinary (by decide))
  · rw [same, assessed]
    exact .inr ⟨declaration, type, _, congrArg (Option.map _) governs, rfl, rfl,
      rejected.append (governing declaration)⟩

/-- Receiving an element shows its start tag, if the element is assessed and findings are told. -/
theorem receive_identities (validator : Validator) (name : QualifiedName)
    (attributes : Attributes) :
    let read := if validator.isValidating then
      validator.identities.readAll ((validator.assessedStart? name attributes).map .start).toList
      else (validator.identities, [])
    let received := validator.receive name attributes
    received.1.identities = read.1 ∧ ofIdentity received.2.2 = ofIdentity read.2 := by
  have offeredIdentities := validator.offer_identities name.expanded
  have offeredValidating := validator.offer_isValidating name.expanded
  intro read received
  unfold read
  rcases validator.receive_cases name attributes with
    ⟨none, skipped, ordinary⟩ | ⟨declaration, type, before, some, opened, found, ordinary⟩
  · rw [none, ordinary.ofIdentity_eq, skipped, Option.map_none, Option.toList_none,
      IdentityEngine.readAll, ite_self]
    exact ⟨offeredIdentities, rfl⟩
  · obtain ⟨identities, reported⟩ :=
      (validator.offer name.expanded).1.openTyped_identities name attributes declaration type
    rw [offeredIdentities, offeredValidating] at identities reported
    rw [some, opened, found, ofIdentity_append, ordinary.ofIdentity_eq, List.nil_append, identities,
      reported]
    cases validator.isValidating with
    | false => exact ⟨rfl, rfl⟩
    | true => exact ⟨rfl, congrArg ofIdentity (List.append_nil _).symm⟩

theorem told_nil (isValidating : Bool) : told isValidating [] = [] := ite_self _

theorem told_under {rules : List Rule} {found : List Diagnostic} (under : Under rules found)
    (isValidating : Bool) : Under rules (told isValidating found) := by
  unfold told
  split
  · exact under
  · exact .nil rules

/-- What a start tag does: it goes beyond the limits, its element is inside a subtree that is passed
through, or the element is received. -/
theorem start_cases (validator : Validator) (name : QualifiedName) (attributes : Attributes) :
    let outcome := validator.start name attributes
    let prepared := validator.prepared name attributes
    let received := prepared.receive name attributes
    (outcome.failure ≠ none ∧ outcome.validator = validator.deeper ∧ outcome.diagnostics = [] ∧
        validator.shownStart? name attributes = none) ∨
      (validator.isSkipping = true ∧
        outcome = validator.entered.pass (.startElement name attributes) ∧
        validator.shownStart? name attributes = none) ∨
      (validator.isSkipping = false ∧ outcome.failure = none ∧ outcome.validator = received.1 ∧
        (∃ hints, Under [.schemaLoad] hints ∧
          outcome.diagnostics = hints ++ told prepared.isValidating received.2.2) ∧
        validator.shownStart? name attributes =
          if prepared.isValidating then prepared.assessedStart? name attributes else none) := by
  intro outcome prepared received
  unfold shownStart?
  cases limits : validator.deeper.checkLimits attributes with
  | error fault =>
    have failed : outcome =
        { validator := validator.deeper, failure := some (.limit fault) } := by
      show validator.start name attributes = _
      unfold start
      rw [deeper] at limits
      simp only [limits]
      rfl
    rw [failed]
    exact .inl ⟨nofun, rfl, rfl, rfl⟩
  | ok =>
    have begun : outcome = if validator.entered.isSkipping then
        validator.entered.pass (.startElement name attributes)
        else validator.entered.assessStart name attributes := by
      show validator.start name attributes = _
      unfold start
      rw [deeper] at limits
      simp only [limits]
      rfl
    cases skipping : validator.isSkipping with
    | true => exact .inr (.inl ⟨rfl, begun.trans (if_pos skipping), rfl⟩)
    | false =>
      have assessed : outcome = validator.entered.assessStart name attributes :=
        begun.trans (if_neg fun same => Bool.false_ne_true (skipping.symm.trans same))
      rw [assessed]
      refine .inr (.inr ⟨rfl, rfl, rfl, ⟨_, ?_, rfl⟩, rfl⟩)
      exact told_under (validator.entered.beginRoot.loadHinted_under name.raw attributes) _

/-- A start tag changes the engine of identity constraints by what is shown to it, and reports
under their rules what the engine reports. -/
theorem start_identities (validator : Validator) (name : QualifiedName) (attributes : Attributes) :
    let read := validator.identities.readAll
      ((validator.shownStart? name attributes).map .start).toList
    (validator.start name attributes).validator.identities = read.1 ∧
      ofIdentity (validator.start name attributes).diagnostics = ofIdentity read.2 := by
  intro read
  unfold read
  rcases validator.start_cases name attributes with
    ⟨-, behind, nothing, shown⟩ | ⟨-, passed, shown⟩ |
      ⟨-, -, behind, ⟨hints, ofHints, found⟩, shown⟩
  · rw [behind, nothing, shown]
    exact ⟨rfl, rfl⟩
  · rw [passed, shown]
    exact ⟨rfl, rfl⟩
  · obtain ⟨identities, reported⟩ :=
      (validator.prepared name attributes).receive_identities name attributes
    rw [(validator.prepared_keeps name attributes).identities] at identities reported
    have plain : Ordinary hints := ofHints.ordinary (by decide)
    rw [behind, found, shown, ofIdentity_append, plain.ofIdentity_eq, List.nil_append,
      ofIdentity_told, identities, reported]
    cases (validator.prepared name attributes).isValidating with
    | false => exact ⟨rfl, rfl⟩
    | true => exact ⟨rfl, rfl⟩

/-! ### End tags -/

theorem finishIdentities_eq (validator : Validator) (value : Option Value) (element : String) :
    (validator.finishIdentities value element).1.identities =
        (if validator.isValidating then (validator.identities.finish value element).1
          else validator.identities) ∧
      (validator.finishIdentities value element).2 =
        if validator.isValidating then (validator.identities.finish value element).2 else [] := by
  unfold finishIdentities
  split <;> exact ⟨rfl, rfl⟩

theorem finishIdentifiers_eq (validator : Validator) (element : String)
    (typed : Option TypedAttribute) :
    ∃ identifiers found, validator.finishIdentifiers element typed =
      ({ validator with identifiers }, found) ∧ Under [.duplicateId] found := by
  cases typed with
  | none => exact ⟨validator.identifiers, [], rfl, .nil _⟩
  | some typed => exact ⟨_, _, rfl, validator.identifiers.take_under ..⟩

/-- What an end tag does: it is inside a subtree that is passed through or closes it, there is no
open element, or an assessed element is closed. -/
theorem finish_cases (validator : Validator) (name : QualifiedName) :
    let outcome := validator.finish name
    outcome.failure = none ∧
    ((∃ depth, validator.skipDepth = some depth ∧
        outcome.validator = (validator.leaveSkip depth).leaveScope ∧ outcome.diagnostics = [] ∧
          validator.shownFinish? = none) ∨
      (validator.skipDepth = none ∧ validator.frames = [] ∧
        outcome.validator = validator.leaveScope ∧ outcome.diagnostics = [] ∧
          validator.shownFinish? = none) ∨
      ∃ frame outer identifiers before after,
        let value := identityValue frame (validator.assessContent frame).1
        let shown := ({ validator with identifiers } : Validator).finishIdentities value frame.raw
        validator.skipDepth = none ∧ validator.frames = frame :: outer ∧
          outcome.validator = { shown.1 with frames := outer }.leaveScope ∧
            outcome.diagnostics = told validator.isValidating (before ++ shown.2 ++ after) ∧
              Ordinary before ∧ Ordinary after ∧
                validator.shownFinish? =
                  if validator.isValidating then some (value, frame.raw) else none) := by
  intro outcome
  refine ⟨rfl, ?_⟩
  rcases Option.eq_none_or_eq_some validator.skipDepth with outside | ⟨depth, inside⟩
  · obtain none | ⟨frame, outer, frames⟩ :
        validator.frames = [] ∨ ∃ frame outer, validator.frames = frame :: outer := by
      cases validator.frames with
      | nil => exact .inl rfl
      | cons frame outer => exact .inr ⟨frame, outer, rfl⟩
    · have closed : validator.close = (validator, Option.none, []) := by rw [close, outside, none]
      refine .inr (.inl ⟨outside, none, ?_, ?_, ?_⟩)
      · exact congrArg (fun closed => closed.1.leaveScope) closed
      · show told validator.isValidating validator.close.2.2 = []
        rw [closed, told_nil]
      · rw [shownFinish?, outside, none]
    · have closed : validator.close = validator.closeElement frame outer := by
        rw [close, outside, frames]
      obtain ⟨identifiers, found, taken, ofIdentifiers⟩ :=
        validator.finishIdentifiers_eq frame.raw (validator.assessContent frame).1.typed
      let read := ({ validator with identifiers } : Validator).finishIdentities
        (identityValue frame (validator.assessContent frame).1) frame.raw
      let closing : Validator := { read.1 with frames := outer }
      refine .inr (.inr ⟨frame, outer, identifiers, (validator.assessContent frame).2 ++ found,
        closing.checkReferences frame.raw, outside, frames, ?_, ?_,
        (validator.assessContent_ordinary frame).append (ofIdentifiers.ordinary (by decide)),
        (closing.checkReferences_under frame.raw).ordinary (by decide), ?_⟩)
      · refine (congrArg (fun closed => closed.1.leaveScope) closed).trans ?_
        unfold closeElement
        dsimp only
        rw [taken]
      · refine (congrArg (fun closed => told validator.isValidating closed.2.2) closed).trans ?_
        unfold closeElement
        dsimp only
        rw [taken]
      · rw [shownFinish?, outside, frames]
  · have closed : validator.close = (validator.leaveSkip depth, Option.none, []) := by
      rw [close, inside]
    refine .inl ⟨depth, inside, ?_, ?_, ?_⟩
    · exact congrArg (fun closed => closed.1.leaveScope) closed
    · show told validator.isValidating validator.close.2.2 = []
      rw [closed, told_nil]
    · rw [shownFinish?, inside]

/-- An end tag changes the engine of identity constraints by what is shown to it, and reports under
their rules what the engine reports. -/
theorem finish_identities (validator : Validator) (name : QualifiedName) :
    let read := validator.identities.readAll (validator.shown? (.endElement name)).toList
    (validator.finish name).validator.identities = read.1 ∧
      ofIdentity (validator.finish name).diagnostics = ofIdentity read.2 := by
  intro read
  unfold read shown?
  rcases (validator.finish_cases name).2 with
    ⟨depth, -, behind, nothing, shown⟩ | ⟨-, -, behind, nothing, shown⟩ |
      ⟨frame, outer, identifiers, before, after, -, -, behind, found, ofBefore, ofAfter, shown⟩
  · rw [behind, nothing, shown]
    refine ⟨?_, rfl⟩
    unfold leaveSkip
    split <;> rfl
  · rw [behind, nothing, shown]
    exact ⟨rfl, rfl⟩
  · obtain ⟨identities, reported⟩ := finishIdentities_eq { validator with identifiers }
      (identityValue frame (validator.assessContent frame).1) frame.raw
    rw [behind, found, shown, ofIdentity_told, ofIdentity_append, ofIdentity_append,
      ofBefore.ofIdentity_eq, ofAfter.ofIdentity_eq, List.nil_append, List.append_nil, reported]
    refine ⟨identities.trans ?_, ?_⟩
    · cases validator.isValidating <;> rfl
    · cases validator.isValidating with
      | false => rfl
      | true => exact congrArg ofIdentity (List.append_nil _).symm

/-! ### Whole runs -/

/-- A step reads what is shown at its event. The beginning and the end of a document lay the engine
aside instead. -/
theorem step_identities (validator : Validator) {event : Event} (within : event.isWithin = true) :
    let read := validator.identities.readAll (validator.shown? event).toList
    (validator.step event).validator.identities = read.1 ∧
      ofIdentity (validator.step event).diagnostics = ofIdentity read.2 := by
  cases event with
  | startDocument => cases within
  | endDocument => cases within
  | startElement name attributes => exact validator.start_identities name attributes
  | endElement name => exact validator.finish_identities name
  | characters text =>
    refine ⟨?_, rfl⟩
    show (validator.addText text).identities = validator.identities
    unfold addText
    split <;> rfl
  | _ => exact ⟨rfl, rfl⟩

/-- A run reads what is shown along its events. -/
theorem run_identities (validator : Validator) {events : List Event}
    (within : ∀ event ∈ events, event.isWithin = true)
    (runs : (validator.run events).failure = none) :
    let read := validator.identities.readAll (validator.tags events)
    (validator.run events).validator.identities = read.1 ∧
      ofIdentity (validator.run events).diagnostics = ofIdentity read.2 := by
  induction events generalizing validator with
  | nil => exact ⟨rfl, rfl⟩
  | cons event rest ofRest =>
    obtain ⟨here, further⟩ := List.forall_mem_cons.mp within
    obtain ⟨stepIdentities, stepFound⟩ := validator.step_identities here
    cases failed : (validator.step event).failure with
    | some failure => simp [run, failed] at runs
    | none =>
      have others : ((validator.step event).validator.run rest).failure = none := by
        simpa [run, failed] using runs
      obtain ⟨restIdentities, restFound⟩ := ofRest _ further others
      rw [stepIdentities] at restIdentities restFound
      simp only [run, failed, tags, IdentityEngine.readAll_append, ofIdentity_append, stepFound,
        restFound]
      exact ⟨restIdentities, trivial⟩

end Validator

end SchemaAssessment

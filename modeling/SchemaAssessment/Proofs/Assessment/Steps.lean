/-
What a tag does to the open elements. A start tag has its element taken by the innermost
open one, puts it on top of the others with nothing seen of it, and may have its subtree
passed through; an end tag takes the innermost open element away. Inside of a subtree
that is passed through, tags only count depth and keep the bindings in scope.
-/

import SchemaAssessment.Proofs.Assessment.Shown
import SchemaAssessment.Proofs.Assessment.Supplies
import SchemaAssessment.Proofs.Identity.Reports
import SchemaAssessment.Proofs.Markup.Prefixes

namespace SchemaAssessment

/-- Nothing has been seen of the element but its start tag. -/
structure Frame.IsFresh (frame : Frame) : Prop where
  childCount : frame.childCount = 0
  hasText : frame.hasText = false
  text : frame.text = ""
  content : frame.content =
    (frame.type.bind fun type => Validator.contentModel? type.definition).map OpenContent.start

/-- The rules of a start tag, those of hints and of the content of the parent aside. -/
def Rule.ofOpening : List Rule :=
  [.abstractElement, .elementNotDeclared, .strictWildcardUndeclared, .abstractType, .duplicateId] ++
    ofChosenTypes ++ ofNilClaims ++ ofAttributes ++ ofStores ++ ofReferences

/-- The rules of opening an element under a type. -/
def Rule.ofTypedOpening : List Rule :=
  [.abstractType, .duplicateId] ++ ofNilClaims ++ ofAttributes ++ ofStores ++ ofReferences

/-- The rules of an end tag, those of the content of the element aside. -/
def Rule.ofClosing : List Rule := [.duplicateId, .unresolvedIdref] ++ ofStores ++ ofReferences

/-- Supplied attributes come behind the others, and are not those of the document. -/
theorem AttributeContext.assess_attributes (context : AttributeContext) (isValidating : Bool)
    (group : Option (AttributeGroup TypeReference)) (attributes : Attributes) :
    ∃ supplied, (context.assess isValidating group attributes).1 = attributes ++ supplied ∧
      ∀ member ∈ supplied, member.isSpecified = false := by
  cases group with
  | none => exact ⟨[], (List.append_nil _).symm, nofun⟩
  | some group =>
    obtain ⟨supplied, same, areSupplied⟩ := group.supply_supplies attributes
    rw [context.assess_supplies]
    exact ⟨supplied, same, areSupplied.unspecified⟩

namespace Validator

/-! ### Bindings in scope -/

/-- The bindings of a start tag go out of scope with its element. -/
theorem entered_pop (validator : Validator) : validator.entered.scopes.pop = validator.scopes :=
  validator.scopes.pop_enter validator.pending

/-! ### Receiving an element -/

/-- The open elements once the innermost one has taken or rejected a child. -/
def framesTaking (validator : Validator) (registry : Registry) (child : ExpandedName) :
    List Frame :=
  validator.frames.modifyHead fun parent => (parent.takeChild registry child).1

/-- What the innermost open element makes of a child. -/
def admission (validator : Validator) (registry : Registry) (child : ExpandedName) : Admission :=
  match validator.frames with
  | [] => .byName
  | parent :: _ => (parent.takeChild registry child).2

theorem offer_eq (validator : Validator) (child : ExpandedName) :
    validator.offer child =
      ({ validator with frames := validator.framesTaking validator.registry child },
        validator.admission validator.registry child) := by
  unfold offer framesTaking admission
  cases frames : validator.frames with
  | nil =>
    obtain ⟨⟩ := validator
    obtain rfl : _ = [] := frames
    rfl
  | cons parent outer => rfl

/-- An element that is opened under a type. -/
def openedFrame (validator : Validator) (name : QualifiedName) (attributes : Attributes)
    (declaration : Option KnownElement) (type : KnownType) : Frame :=
  let claim := validator.claimNil name.raw declaration attributes
  { name, declaration, type := some type
    content := (contentModel? type.definition).map OpenContent.start
    isNil := claim.isNil, isNilRefused := claim.isRefused }

theorem isFresh_openedFrame (validator : Validator) (name : QualifiedName)
    (attributes : Attributes) (declaration : Option KnownElement) (type : KnownType) :
    (validator.openedFrame name attributes declaration type).IsFresh :=
  ⟨rfl, rfl, rfl, rfl⟩

theorem startIdentities_shape (validator : Validator) (event : ElementStart) :
    (∃ identities, (validator.startIdentities event).1 = { validator with identities }) ∧
      Under (Rule.ofStores ++ Rule.ofReferences) (validator.startIdentities event).2 := by
  unfold startIdentities
  split
  · exact ⟨⟨_, rfl⟩, validator.identities.read_under (.start event)⟩
  · exact ⟨⟨_, rfl⟩, .nil _⟩

theorem openTyped_under (validator : Validator) (name : QualifiedName) (attributes : Attributes)
    (declaration : Option KnownElement) (type : KnownType) :
    Under Rule.ofTypedOpening (validator.openTyped name attributes declaration type).2.2 := by
  let context : AttributeContext := ⟨validator.registry, validator.scopes, name.raw⟩
  let assessed := context.assess validator.isValidating (attributesOf type.definition) attributes
  let taken := takeIdentifiers validator.identifiers name.raw assessed.2.1
  let ready : Validator := { validator with
    identifiers := taken.1
    frames := validator.openedFrame name attributes declaration type :: validator.frames }
  have ofClaim := validator.claimNil_under name.raw declaration attributes
  have ofAttributes := context.assess_under validator.isValidating (attributesOf type.definition)
    attributes
  have ofIdentifiers := takeIdentifiers_under name.raw validator.identifiers assessed.2.1
  have ofIdentities :=
    (ready.startIdentities_shape (validator.typedStart name attributes declaration type)).2
  exact (((((abstractType_under name.raw type).mono (by decide)).append
    (ofClaim.mono (by decide))).append (ofAttributes.mono (by decide))).append
      (ofIdentifiers.mono (by decide))).append (ofIdentities.mono (by decide))

/-- Opening an element under a type puts it on top of the others, and supplies attributes. -/
theorem openTyped_shape (validator : Validator) (name : QualifiedName) (attributes : Attributes)
    (declaration : Option KnownElement) (type : KnownType) :
    let opened := validator.openTyped name attributes declaration type
    (∃ identifiers identities, opened.1 = { validator with
      identifiers, identities
      frames := validator.openedFrame name attributes declaration type :: validator.frames }) ∧
      (∃ supplied, opened.2.1 = attributes ++ supplied ∧
        ∀ member ∈ supplied, member.isSpecified = false) ∧
      Under Rule.ofOpening opened.2.2 := by
  intro opened
  let context : AttributeContext := ⟨validator.registry, validator.scopes, name.raw⟩
  let assessed := context.assess validator.isValidating (attributesOf type.definition) attributes
  let taken := takeIdentifiers validator.identifiers name.raw assessed.2.1
  let ready : Validator := { validator with
    identifiers := taken.1
    frames := validator.openedFrame name attributes declaration type :: validator.frames }
  obtain ⟨⟨identities, behind⟩, -⟩ :=
    ready.startIdentities_shape (validator.typedStart name attributes declaration type)
  exact ⟨⟨taken.1, identities, behind⟩, context.assess_attributes _ _ attributes,
    (validator.openTyped_under name attributes declaration type).mono (by decide)⟩

/-- Receiving an element tells whether the parent rejects it, and then something else. Its subtree
is passed through, or it is not rejected and is opened under a type. -/
theorem receive_shape (validator : Validator) (name : QualifiedName) (attributes : Attributes) :
    let offered := (validator.offer name.expanded).1
    let admission := validator.admission validator.registry name.expanded
    let received := validator.receive name attributes
    (∃ found, Under Rule.ofOpening found ∧ received.2.2 = rejection name.raw admission ++ found) ∧
      (received.1 = offered.enterSkip name ∧ received.2.1 = attributes ∨
        ∃ declaration type, (∀ expected, admission ≠ .rejected expected) ∧
          received.1 = (offered.openTyped name attributes declaration type).1 ∧
            received.2.1 = (offered.openTyped name attributes declaration type).2.1) := by
  have ofOffer : (validator.offer name.expanded).2 =
      validator.admission validator.registry name.expanded :=
    congrArg Prod.snd (validator.offer_eq name.expanded)
  have governing (declaration : Option KnownElement) : Under Rule.ofOpening
      (abstractDeclaration name.raw declaration ++
        ((validator.offer name.expanded).1.governingType name.raw declaration attributes).2) :=
    ((abstractDeclaration_under ..).mono (by decide)).append
      ((governingType_under ..).mono (by decide))
  have ways := validator.receive_ways name attributes
  rw [ofOffer] at ways
  rcases ways with ⟨-, same⟩ |
    ⟨declaration, isStrict, assessed, ⟨-, same⟩ | ⟨type, -, same⟩⟩
  · rw [same]
    exact ⟨⟨[], .nil _, (List.append_nil _).symm⟩, .inl ⟨rfl, rfl⟩⟩
  · rw [same]
    have missing : Under Rule.ofOpening
        ((validator.offer name.expanded).1.undeclared name.raw isStrict) :=
      (undeclared_under ..).mono (by decide)
    exact ⟨⟨_, (governing declaration).append missing, List.append_assoc ..⟩, .inl ⟨rfl, rfl⟩⟩
  · rw [same]
    have opening := ((validator.offer name.expanded).1.openTyped_shape name attributes declaration
      type).2.2
    refine ⟨⟨_, (governing declaration).append opening, List.append_assoc ..⟩,
      .inr ⟨declaration, type, fun expected rejected => ?_, rfl, rfl⟩⟩
    rw [rejected] at assessed
    cases assessed

/-- Receiving an element changes nothing but the open elements and what is kept of values. -/
theorem receive_eq (validator : Validator) (name : QualifiedName) (attributes : Attributes) :
    ∃ frames skipDepth identifiers identities, (validator.receive name attributes).1 =
      { validator with frames, skipDepth, identifiers, identities } := by
  rcases (validator.receive_shape name attributes).2 with
    ⟨skipped, -⟩ | ⟨declaration, type, -, opened, -⟩
  · rw [skipped, offer_eq]
    exact ⟨_, _, _, _, rfl⟩
  · obtain ⟨⟨identifiers, identities, state⟩, -⟩ :=
      (validator.offer name.expanded).1.openTyped_shape name attributes declaration type
    rw [opened, state, offer_eq]
    exact ⟨_, _, _, _, rfl⟩

/-! ### Start tags -/

/-- A validator behind the start tag of an element that has been received: the parent has taken it
or rejected it, nothing has been seen of it, and its subtree may be passed through. -/
structure Admits (opened validator : Validator) (name : QualifiedName) : Prop where
  frames : ∃ child : Frame, child.IsFresh ∧ child.name = name ∧
    opened.frames = child :: validator.framesTaking opened.registry name.expanded
  depth : opened.depth = validator.depth + 1
  skipDepth : opened.skipDepth = none ∨ opened.skipDepth = some opened.depth
  scopes : opened.scopes.pop = validator.scopes
  isValidating : validator.frames ≠ [] → opened.isValidating = validator.isValidating

/-- A validator behind a start tag inside of a subtree that is passed through. -/
structure PassesInto (opened validator : Validator) : Prop where
  frames : opened.frames = validator.frames
  depth : opened.depth = validator.depth + 1
  skipDepth : opened.skipDepth = validator.skipDepth
  scopes : opened.scopes.pop = validator.scopes
  isValidating : opened.isValidating = validator.isValidating

theorem start_of_passes (validator : Validator) (name : QualifiedName) (attributes : Attributes)
    (passes : (validator.start name attributes).failure = none) :
    validator.start name attributes = if validator.isSkipping
      then validator.entered.pass (.startElement name attributes)
      else validator.entered.assessStart name attributes := by
  unfold start at passes ⊢
  dsimp only at passes ⊢
  split at passes
  · cases passes
  · rfl

/-- An element that is received goes on top of the open ones. Its subtree is passed through, or it
is not rejected and may be given attributes. -/
theorem receive_admits (validator : Validator) (name : QualifiedName) (attributes : Attributes) :
    let received := validator.receive name attributes
    let behind := received.1
    (behind.registry = validator.registry ∧ behind.depth = validator.depth ∧
      behind.scopes = validator.scopes ∧ behind.isValidating = validator.isValidating ∧
      ∃ child : Frame, child.IsFresh ∧ child.name = name ∧
        behind.frames = child :: validator.framesTaking validator.registry name.expanded) ∧
    (behind.skipDepth = some behind.depth ∧ received.2.1 = attributes ∨
      behind.skipDepth = validator.skipDepth ∧
        (∀ expected,
          validator.admission validator.registry name.expanded ≠ .rejected expected) ∧
        ∃ supplied, received.2.1 = attributes ++ supplied ∧
          ∀ member ∈ supplied, member.isSpecified = false) := by
  intro received behind
  unfold behind received
  rcases (validator.receive_shape name attributes).2 with
    ⟨skipped, same⟩ | ⟨declaration, type, taken, opened, supplies⟩
  · rw [skipped, offer_eq]
    exact ⟨⟨rfl, rfl, rfl, rfl, { name }, ⟨rfl, rfl, rfl, rfl⟩, rfl, rfl⟩, .inl ⟨rfl, same⟩⟩
  · obtain ⟨⟨identifiers, identities, state⟩, supplied, -⟩ :=
      (validator.offer name.expanded).1.openTyped_shape name attributes declaration type
    rw [opened, supplies, state, offer_eq] at *
    exact ⟨⟨rfl, rfl, rfl, rfl, _, isFresh_openedFrame _ name attributes declaration type, rfl,
      rfl⟩, .inr ⟨rfl, taken, supplied⟩⟩

theorem skipDepth_of_isSkipping {validator : Validator} (outside : validator.isSkipping = false) :
    validator.skipDepth = none :=
  Option.isNone_iff_eq_none.mp (Option.isSome_eq_false_iff.mp outside)

/-- What the start tag of an element that is received leads to: the tag goes on with what is
supplied behind the attributes, and it is told if the parent rejects the element. Subtrees of
rejected elements are passed through, and nothing is supplied where a subtree is. -/
structure Receives (validator : Validator) (name : QualifiedName) (attributes : Attributes)
    (outcome : Outcome) : Prop where
  admits : outcome.validator.Admits validator name
  supplies : ∃ supplied, outcome.events = [.startElement name (attributes ++ supplied)] ∧
    (∀ member ∈ supplied, member.isSpecified = false) ∧
      (outcome.validator.isSkipping = true → supplied = [])
  skips : ∀ expected,
    validator.admission outcome.validator.registry name.expanded = .rejected expected →
      outcome.validator.isSkipping = true
  rejects : underRule .invalidChild outcome.diagnostics = told outcome.validator.isValidating
    (rejection name.raw (validator.admission outcome.validator.registry name.expanded))

/-- A start tag within the limits inside of a subtree that is passed through. -/
theorem start_passesInto {validator : Validator} {name : QualifiedName} {attributes : Attributes}
    (passes : (validator.start name attributes).failure = none)
    (skipping : validator.isSkipping = true) :
    let outcome := validator.start name attributes
    outcome.validator.PassesInto validator ∧ outcome.diagnostics = [] ∧
      outcome.events = [.startElement name attributes] := by
  rw [validator.start_of_passes name attributes passes, if_pos skipping]
  exact ⟨⟨rfl, rfl, rfl, validator.entered_pop, rfl⟩, rfl, rfl⟩

/-- What is told at the start tag of an element that is received: hints that cannot be followed,
then that the parent rejects it, and then other things. -/
theorem assessStart_rejects (validator : Validator) (name : QualifiedName)
    (attributes : Attributes) :
    let prepared := validator.prepared name attributes
    underRule .invalidChild (validator.entered.assessStart name attributes).diagnostics =
      told prepared.isValidating
        (rejection name.raw (prepared.admission prepared.registry name.expanded)) := by
  intro prepared
  let hints := told validator.entered.beginRoot.isValidating
    (validator.entered.beginRoot.loadHinted name.raw attributes).2
  have ofHints : Under [.schemaLoad] hints :=
    told_under (validator.entered.beginRoot.loadHinted_under name.raw attributes) _
  obtain ⟨⟨found, opening, same⟩, -⟩ := prepared.receive_shape name attributes
  show underRule .invalidChild (hints ++ told prepared.isValidating
    (prepared.receive name attributes).2.2) = _
  rw [same, underRule_append, ofHints.underRule_eq_nil (by decide), List.nil_append]
  cases prepared.isValidating with
  | false => rfl
  | true =>
    show underRule .invalidChild (rejection name.raw _ ++ found) = rejection name.raw _
    rw [underRule_append, opening.underRule_eq_nil (by decide), List.append_nil]
    exact (rejection_under ..).underRule_eq_self

theorem framesTaking_of_frames {left right : Validator} (frames : left.frames = right.frames)
    (registry : Registry) (child : ExpandedName) :
    left.framesTaking registry child = right.framesTaking registry child := by
  rw [framesTaking, framesTaking, frames]

theorem admission_of_frames {left right : Validator} (frames : left.frames = right.frames)
    (registry : Registry) (child : ExpandedName) :
    left.admission registry child = right.admission registry child := by
  rw [admission, admission, frames]

theorem prepared_pop (validator : Validator) (name : QualifiedName) (attributes : Attributes) :
    (validator.prepared name attributes).scopes.pop = validator.scopes := by
  obtain ⟨registry, attempted, isValidating, same, -⟩ := validator.prepared_eq name attributes
  rw [same]
  exact validator.entered_pop

theorem prepared_identifiers (validator : Validator) (name : QualifiedName)
    (attributes : Attributes) :
    (validator.prepared name attributes).identifiers = validator.identifiers := by
  obtain ⟨registry, attempted, isValidating, same, -⟩ := validator.prepared_eq name attributes
  rw [same]
  rfl

/-- The element of a start tag is received above the elements that are open before the tag. -/
theorem prepared_admits {validator : Validator} (outside : validator.isSkipping = false)
    (name : QualifiedName) (attributes : Attributes) :
    ((validator.prepared name attributes).receive name attributes).1.Admits validator name := by
  have keeps := validator.prepared_keeps name attributes
  have free := keeps.skipDepth.trans (skipDepth_of_isSkipping outside)
  obtain ⟨⟨registry, depth, scopes, isValidating, child, fresh, named, frames⟩, further⟩ :=
    (validator.prepared name attributes).receive_admits name attributes
  refine ⟨⟨child, fresh, named, ?_⟩, depth.trans keeps.depth, ?_, ?_, fun below => ?_⟩
  · rw [frames, registry]
    exact congrArg (child :: ·) (framesTaking_of_frames keeps.frames _ _)
  · exact further.symm.imp (fun opened => opened.1.trans free) And.left
  · rw [scopes, prepared_pop]
  · exact isValidating.trans (keeps.isValidating below)

/-- A start tag within the limits outside of the subtrees that are passed through. -/
theorem start_receives {validator : Validator} {name : QualifiedName} {attributes : Attributes}
    (passes : (validator.start name attributes).failure = none)
    (outside : validator.isSkipping = false) :
    validator.Receives name attributes (validator.start name attributes) := by
  let prepared := validator.prepared name attributes
  have keeps := validator.prepared_keeps name attributes
  have same := validator.start_of_passes name attributes passes
  rw [if_neg (Bool.eq_false_iff.mp outside)] at same
  obtain ⟨⟨registry, -, -, isValidating, -⟩, further⟩ := prepared.receive_admits name attributes
  have admission : prepared.admission prepared.registry name.expanded =
      validator.admission prepared.registry name.expanded :=
    admission_of_frames keeps.frames _ _
  have behind : (validator.entered.assessStart name attributes).validator =
      (prepared.receive name attributes).1 := rfl
  have events : (validator.entered.assessStart name attributes).events =
      [.startElement name (prepared.receive name attributes).2.1] := rfl
  rw [same]
  refine ⟨prepared_admits outside name attributes, ?_, fun expected rejected => ?_, ?_⟩
  · rcases further with ⟨skipDepth, nothing⟩ | ⟨skipDepth, -, supplied, supplies, unspecified⟩
    · refine ⟨[], ?_, nofun, fun _ => rfl⟩
      rw [events, nothing, List.append_nil]
    · refine ⟨supplied, by rw [events, supplies], unspecified, fun skipping => ?_⟩
      have free := skipDepth.trans (keeps.skipDepth.trans (skipDepth_of_isSkipping outside))
      rw [behind, isSkipping, free] at skipping
      cases skipping
  · rw [behind, registry, ← admission] at rejected
    rcases further with ⟨skipDepth, -⟩ | ⟨-, taken, -⟩
    · rw [behind, isSkipping, skipDepth]
      rfl
    · exact absurd rejected (taken expected)
  · rw [behind, isValidating, registry, ← admission]
    exact validator.assessStart_rejects name attributes

/-- An element whose subtree is not passed through has been received. -/
theorem receives_of_opened {validator : Validator} {name : QualifiedName}
    {attributes : Attributes} (passes : (validator.start name attributes).failure = none)
    (outside : (validator.start name attributes).validator.isSkipping = false) :
    validator.Receives name attributes (validator.start name attributes) := by
  cases skipping : validator.isSkipping with
  | true =>
    rw [isSkipping, (start_passesInto passes skipping).1.skipDepth] at outside
    cases skipping.symm.trans outside
  | false => exact start_receives passes skipping

/-! ### End tags -/

theorem finishIdentities_shape (validator : Validator) (value : Option Value) (element : String) :
    (∃ identities, (validator.finishIdentities value element).1 = { validator with identities }) ∧
      Under (Rule.ofStores ++ Rule.ofReferences)
        (validator.finishIdentities value element).2 := by
  unfold finishIdentities
  split
  · exact ⟨⟨_, rfl⟩, validator.identities.read_under (.finish value element)⟩
  · exact ⟨⟨_, rfl⟩, .nil _⟩

/-- Closing an assessed element takes it away. Told is what is found about its content, and then
something about identifiers and identity constraints. -/
theorem closeElement_shape (validator : Validator) (frame : Frame) (outer : List Frame) :
    let closed := validator.closeElement frame outer
    (∃ identifiers identities,
      closed.1 = { validator with identifiers, identities, frames := outer }) ∧
      closed.2.1 = (validator.assessContent frame).1.supplied ∧
        ∃ others, Under Rule.ofClosing others ∧
          closed.2.2 = (validator.assessContent frame).2 ++ others := by
  intro closed
  let content := validator.assessContent frame
  obtain ⟨identifiers, noted, ofNoted, identifying⟩ :=
    validator.finishIdentifiers_eq frame.raw content.1.typed
  let read := ({ validator with identifiers } : Validator).finishIdentities
    (identityValue frame content.1) frame.raw
  let last : Validator := { read.1 with frames := outer }
  obtain ⟨⟨identities, ofRead⟩, identity⟩ := finishIdentities_shape
    { validator with identifiers } (identityValue frame content.1) frame.raw
  have same : closed = (last, content.1.supplied,
      content.2 ++ noted ++ read.2 ++ last.checkReferences frame.raw) := by
    unfold closed closeElement
    dsimp only
    rw [ofNoted]
  rw [same]
  refine ⟨⟨identifiers, identities, ?_⟩, rfl, noted ++ read.2 ++ last.checkReferences frame.raw,
    ((identifying.mono (by decide)).append (identity.mono (by decide))).append
      ((last.checkReferences_under frame.raw).mono (by decide)), ?_⟩
  · show { read.1 with frames := outer } = _
    rw [ofRead]
  · simp only [List.append_assoc]
    rfl

/-- Closing an element changes nothing but the open elements and what is kept of values. -/
theorem close_eq (validator : Validator) :
    ∃ frames skipDepth identifiers identities, validator.close.1 =
      { validator with frames, skipDepth, identifiers, identities } := by
  unfold close
  split
  · unfold leaveSkip
    split <;> exact ⟨_, _, _, _, rfl⟩
  · exact ⟨_, _, _, _, rfl⟩
  · rename_i frame outer _ _
    obtain ⟨⟨identifiers, identities, closed⟩, -⟩ := validator.closeElement_shape frame outer
    exact ⟨_, _, _, _, closed⟩

/-- An end tag takes the innermost of the open elements away, unless it is inside of a subtree that
is passed through. -/
def isClosing (validator : Validator) : Bool :=
  validator.skipDepth.all fun skipDepth => skipDepth == validator.depth

theorem isClosing_of_outside {validator : Validator} (outside : validator.skipDepth = none) :
    validator.isClosing = true := by
  rw [isClosing, outside]
  rfl

theorem isClosing_of_inside {validator : Validator} {skipDepth : Nat}
    (inside : validator.skipDepth = some skipDepth) :
    validator.isClosing = (skipDepth == validator.depth) := by
  rw [isClosing, inside]
  rfl

/-- A validator behind an end tag. -/
structure Leaves (behind validator : Validator) : Prop where
  frames : behind.frames = if validator.isClosing then validator.frames.tail else validator.frames
  skipDepth : behind.skipDepth = if validator.isClosing then none else validator.skipDepth
  depth : behind.depth = validator.depth - 1
  scopes : behind.scopes = validator.scopes.pop
  isValidating : behind.isValidating = validator.isValidating
  configuration : behind.configuration = validator.configuration

/-- What an end tag does to the open elements. -/
theorem finish_leaves (validator : Validator) (ending : QualifiedName) :
    (validator.finish ending).validator.Leaves validator := by
  show validator.close.1.leaveScope.Leaves validator
  unfold close
  split
  · rename_i skipDepth inside
    have closing := isClosing_of_inside inside
    unfold leaveSkip
    dsimp only
    split
    · rename_i here
      refine ⟨?_, ?_, rfl, rfl, rfl, rfl⟩
      all_goals rw [closing, if_pos here]; rfl
    · rename_i above
      refine ⟨?_, ?_, rfl, rfl, rfl, rfl⟩
      all_goals rw [closing, if_neg above]; rfl
  · rename_i outside none
    have closing := isClosing_of_outside outside
    refine ⟨?_, ?_, rfl, rfl, rfl, rfl⟩
    · rw [if_pos closing, none]
      exact none
    · rw [if_pos closing]
      exact outside
  · rename_i frame outer outside frames
    have closing := isClosing_of_outside outside
    obtain ⟨⟨identifiers, identities, closed⟩, -⟩ := validator.closeElement_shape frame outer
    rw [closed]
    refine ⟨?_, ?_, rfl, rfl, rfl, rfl⟩
    · rw [if_pos closing, frames]
      rfl
    · rw [if_pos closing]
      exact outside

/-- What is told at the end tag of an assessed element: what is found about its content, and then
something about identifiers and identity constraints. -/
theorem finish_found {validator : Validator} {frame : Frame} {outer : List Frame}
    (outside : validator.isSkipping = false) (frames : validator.frames = frame :: outer)
    (ending : QualifiedName) :
    ∃ others, Under Rule.ofClosing others ∧ (validator.finish ending).diagnostics =
      told validator.isValidating ((validator.assessContent frame).2 ++ others) := by
  have closed : validator.close = validator.closeElement frame outer := by
    rw [close, skipDepth_of_isSkipping outside, frames]
  obtain ⟨-, -, others, under, found⟩ := validator.closeElement_shape frame outer
  refine ⟨others, under, ?_⟩
  show told validator.isValidating validator.close.2.2 = _
  rw [closed, found]

/-- The text that goes on in front of an end tag. -/
def supplied? (validator : Validator) : Option String := validator.close.2.1

theorem finish_events (validator : Validator) (ending : QualifiedName) :
    (validator.finish ending).events =
      (validator.supplied?.map Event.characters).toList ++ [.endElement ending] :=
  rfl

theorem supplied?_of_passed {validator : Validator}
    (passed : validator.isSkipping = true ∨ validator.frames = []) :
    validator.supplied? = none := by
  unfold supplied? close
  split
  · rfl
  · rfl
  · rename_i outside frames
    rcases passed with skipping | none
    · rw [isSkipping, outside] at skipping
      cases skipping
    · cases frames.symm.trans none

theorem supplied?_of_frame {validator : Validator} {frame : Frame} {outer : List Frame}
    (outside : validator.isSkipping = false) (frames : validator.frames = frame :: outer) :
    validator.supplied? = (validator.assessContent frame).1.supplied := by
  unfold supplied? close
  rw [skipDepth_of_isSkipping outside, frames]
  exact (validator.closeElement_shape frame outer).2.1

end Validator

end SchemaAssessment

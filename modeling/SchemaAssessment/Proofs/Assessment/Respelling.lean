/-
Prefixes carry no meaning. Two documents that differ only in the prefixes of their names are
assessed alike: the same rules are broken in the same order, the same values are supplied, and
what is passed on differs in those prefixes alone. For the open elements keep their names as
written for messages only, so that the validators behind two such events are the same but for
these names, and so on along the documents.
-/

import SchemaAssessment.Proofs.Assessment.Phrasing
import SchemaAssessment.Proofs.Assessment.Sources
import SchemaAssessment.Proofs.Assessment.Spelling

namespace SchemaAssessment

/-! ### Open elements and validators -/

/-- The other element is the same, but for its name as written. -/
def Frame.Respells (frame other : Frame) : Prop := ∃ name, other = { frame with name }

theorem Frame.takeChild_respells (frame : Frame) (name : QualifiedName) (registry : Registry)
    (child : ExpandedName) :
    (frame.takeChild registry child).1.Respells
        (takeChild registry child { frame with name }).1 ∧
      (takeChild registry child { frame with name }).2 = (frame.takeChild registry child).2 := by
  unfold takeChild
  dsimp only
  split <;> exact ⟨⟨name, rfl⟩, rfl⟩

/-- The other validator is the same, but for the names of the open elements as written. -/
def Validator.Respells (validator other : Validator) : Prop :=
  ∃ frames, List.Forall₂ Frame.Respells validator.frames frames ∧ other = { validator with frames }

/-- Two outcomes that differ only in the prefixes of names, and in the texts of findings. -/
structure Outcome.Respells (left right : Outcome) : Prop where
  validator : left.validator.Respells right.validator
  rules : SameRules left.diagnostics right.diagnostics
  events : List.Forall₂ Event.Respells left.events right.events
  failure : right.failure = left.failure

theorem SameRules.told {found others : List Diagnostic} (rules : SameRules found others)
    (isValidating : Bool) :
    SameRules (Validator.told isValidating found) (Validator.told isValidating others) := by
  unfold Validator.told
  split
  · exact rules
  · rfl

namespace Validator

/-- Two validators with what was found on the way: the validators are the same but for names as
written, and the findings are the same up to their texts. -/
structure SameCourse (left right : Validator × List Diagnostic) : Prop where
  validator : left.1.Respells right.1
  rules : SameRules left.2 right.2

variable {validator other : Validator} {attributes others : Attributes}

namespace Respells

theorem frames (same : validator.Respells other) :
    List.Forall₂ Frame.Respells validator.frames other.frames := by
  obtain ⟨frames, respelled, rfl⟩ := same
  exact respelled

theorem withFrames (same : validator.Respells other) {inside shown : List Frame}
    (respelled : List.Forall₂ Frame.Respells inside shown) :
    Respells { validator with frames := inside } { other with frames := shown } := by
  obtain ⟨frames, -, rfl⟩ := same
  exact ⟨shown, respelled, rfl⟩

theorem isAtRoot (same : validator.Respells other) : other.isAtRoot = validator.isAtRoot := by
  have around := same.frames
  unfold Validator.isAtRoot
  generalize validator.frames = inside, other.frames = shown at around ⊢
  cases around <;> rfl

/-- What does not look at the open elements is the same. -/
theorem read {β : Type} (same : validator.Respells other) (part : Validator → β)
    (blind : ∀ frames, part { validator with frames } = part validator) :
    part other = part validator := by
  obtain ⟨frames, -, rfl⟩ := same
  exact blind frames

/-- A change that does not look at the open elements and leaves them alone. -/
theorem map (same : validator.Respells other) (change : Validator → Validator)
    (blind : ∀ frames, change { validator with frames } = { change validator with frames })
    (leaves : (change validator).frames = validator.frames) :
    (change validator).Respells (change other) := by
  obtain ⟨frames, respelled, rfl⟩ := same
  exact ⟨frames, leaves ▸ respelled, blind frames⟩

theorem skipDepth (same : validator.Respells other) : other.skipDepth = validator.skipDepth :=
  same.read Validator.skipDepth fun _ => rfl

theorem isValidating (same : validator.Respells other) :
    other.isValidating = validator.isValidating :=
  same.read Validator.isValidating fun _ => rfl

end Respells

/-! ### Before an element is received -/

theorem followHint_respells (same : validator.Respells other) (element shown : String)
    (space : Option String) (hint : String) :
    SameCourse (validator.followHint element space hint) (other.followHint shown space hint) := by
  obtain ⟨frames, respelled, rfl⟩ := same
  unfold followHint
  dsimp only
  split
  · exact ⟨⟨frames, respelled, rfl⟩, rfl⟩
  · split <;> exact ⟨⟨frames, respelled, rfl⟩, rfl⟩

theorem followHints_respells (same : validator.Respells other) (element shown : String)
    (hints : List (Option String × String)) :
    SameCourse (validator.followHints element hints) (other.followHints shown hints) := by
  induction hints generalizing validator other with
  | nil => exact ⟨same, rfl⟩
  | cons hint rest ofRest =>
    have first := followHint_respells same element shown hint.1 hint.2
    have later := ofRest first.validator
    exact ⟨later.validator, first.rules.append later.rules⟩

theorem loadHinted_respells (same : validator.Respells other) (alike : attributes.CountAs others)
    (element shown : String) :
    SameCourse (validator.loadHinted element attributes) (other.loadHinted shown others) := by
  have hinted := followHints_respells same element shown (hints attributes)
  obtain ⟨frames, respelled, rfl⟩ := same
  unfold loadHinted
  rw [hints_of_speakAlike alike.speakAlike]
  dsimp only
  split
  · exact hinted
  · exact ⟨⟨frames, respelled, rfl⟩, rfl⟩

theorem beginRoot_respells (same : validator.Respells other) :
    validator.beginRoot.Respells other.beginRoot := by
  unfold beginRoot
  rw [same.isAtRoot]
  obtain ⟨frames, respelled, rfl⟩ := same
  split <;> exact ⟨frames, respelled, rfl⟩

theorem decideDynamic_respells (same : validator.Respells other) (space : Option String) :
    (validator.decideDynamic space).Respells (other.decideDynamic space) := by
  unfold decideDynamic
  rw [same.isAtRoot]
  obtain ⟨frames, respelled, rfl⟩ := same
  dsimp only
  split <;> exact ⟨frames, respelled, rfl⟩

theorem offer_respells (same : validator.Respells other) (child : ExpandedName) :
    (validator.offer child).1.Respells (other.offer child).1 ∧
      (other.offer child).2 = (validator.offer child).2 := by
  obtain ⟨frames, respelled, rfl⟩ := same
  rw [offer_eq, offer_eq]
  unfold framesTaking admission
  dsimp only
  generalize validator.frames = inside at respelled
  cases respelled with
  | nil => exact ⟨⟨[], .nil, rfl⟩, rfl⟩
  | @cons parent _ outer _ first rest =>
    obtain ⟨name, rfl⟩ := first
    obtain ⟨taken, admitted⟩ := parent.takeChild_respells name validator.registry child
    exact ⟨⟨_, .cons taken rest, rfl⟩, admitted⟩

/-! ### Opening elements -/

theorem rejection_wording (element shown : String) (admission : Admission) :
    SameRules (rejection element admission) (rejection shown admission) := by
  cases admission <;> rfl

theorem abstractDeclaration_wording (element shown : String) (declaration : Option KnownElement) :
    SameRules (abstractDeclaration element declaration) (abstractDeclaration shown declaration) := by
  unfold abstractDeclaration
  split <;> rfl

theorem abstractType_wording (element shown : String) (type : KnownType) :
    SameRules (abstractType element type) (abstractType shown type) := by
  unfold abstractType
  split <;> rfl

theorem undeclared_respells (same : validator.Respells other) (element shown : String)
    (isStrict : Bool) :
    SameRules (validator.undeclared element isStrict) (other.undeclared shown isStrict) := by
  unfold undeclared
  rw [same.isAtRoot]
  split
  · rfl
  · split <;> rfl

theorem governingType_respells (same : validator.Respells other)
    (alike : attributes.CountAs others) (element shown : String)
    (declaration : Option KnownElement) :
    SameButTexts (validator.governingType element declaration attributes)
      (other.governingType shown declaration others) := by
  rw [governingType_of_speakAlike alike.speakAlike]
  obtain ⟨frames, -, rfl⟩ := same
  unfold governingType chosenType
  dsimp only
  split
  · split
    · split
      · exact ⟨rfl, rfl⟩
      · exact ⟨rfl, rfl⟩
      · split <;> exact ⟨rfl, rfl⟩
    · exact ⟨rfl, rfl⟩
  · exact ⟨rfl, rfl⟩

theorem claimNil_respells (same : validator.Respells other) (alike : attributes.CountAs others)
    (element shown : String) (declaration : Option KnownElement) :
    let first := validator.claimNil element declaration attributes
    let second := other.claimNil shown declaration others
    second.isNil = first.isNil ∧ second.isRefused = first.isRefused ∧
      SameRules first.found second.found := by
  rw [claimNil_of_speakAlike alike.speakAlike]
  obtain ⟨frames, -, rfl⟩ := same
  unfold claimNil nilClaim
  dsimp only
  split
  · exact ⟨rfl, rfl, rfl⟩
  · split
    · split
      · dsimp only
        split <;> exact ⟨rfl, rfl, rfl⟩
      · exact ⟨rfl, rfl, rfl⟩
      · exact ⟨rfl, rfl, rfl⟩
    · exact ⟨rfl, rfl, rfl⟩
  · exact ⟨rfl, rfl, rfl⟩

theorem takeIdentifiers_wording (identifiers : Identifiers) (element shown : String)
    (values : List (Option TypedAttribute)) :
    SameButTexts (takeIdentifiers identifiers element values)
      (takeIdentifiers identifiers shown values) := by
  induction values generalizing identifiers with
  | nil => exact .refl _
  | cons value rest ofRest =>
    cases value with
    | none => exact ofRest identifiers
    | some typed =>
      obtain ⟨taken, found⟩ := identifiers.take_wording element shown typed.value typed.idKind
      rw [takeIdentifiers, takeIdentifiers]
      dsimp only
      rw [taken]
      exact .behind found (ofRest _)

theorem startIdentities_respells (same : validator.Respells other) {event otherEvent : ElementStart}
    (means : event.MeansTheSame otherEvent) :
    SameCourse (validator.startIdentities event) (other.startIdentities otherEvent) := by
  obtain ⟨frames, respelled, rfl⟩ := same
  obtain ⟨state, rules⟩ := IdentityEngine.start_wording means validator.identities
  unfold startIdentities
  dsimp only
  split
  · rw [state]
    exact ⟨⟨frames, respelled, rfl⟩, rules⟩
  · exact ⟨⟨frames, respelled, rfl⟩, rfl⟩

/-- Two elements that are received, each with the validator behind it, its attributes, and what was
found. -/
structure SameReception (left right : Validator × Attributes × List Diagnostic) : Prop where
  validator : left.1.Respells right.1
  attributes : left.2.1.CountAs right.2.1
  rules : SameRules left.2.2 right.2.2

theorem assess_respells (same : validator.Respells other) (alike : attributes.CountAs others)
    (name shown : QualifiedName) (type : KnownType) :
    let context : AttributeContext := ⟨validator.registry, validator.scopes, name.raw⟩
    let assessed := context.assess validator.isValidating (attributesOf type.definition) attributes
    let contextShown : AttributeContext := ⟨other.registry, other.scopes, shown.raw⟩
    let assessedShown :=
      contextShown.assess other.isValidating (attributesOf type.definition) others
    assessed.1.CountAs assessedShown.1 ∧ SameButTexts assessed.2 assessedShown.2 := by
  obtain ⟨frames, -, rfl⟩ := same
  exact AttributeContext.assess_wording _ _ _ _ alike _ _

theorem typedStart_respells (same : validator.Respells other) (alike : attributes.CountAs others)
    {name shown : QualifiedName} (named : shown.expanded = name.expanded)
    (declaration : Option KnownElement) (type : KnownType) :
    (validator.typedStart name attributes declaration type).MeansTheSame
      (other.typedStart shown others declaration type) := by
  obtain ⟨supplied, typed, -⟩ := assess_respells same alike name shown type
  exact .ofAttributes named supplied (congrArg (List.map _) typed) rfl

theorem openedFrame_respells (same : validator.Respells other) (alike : attributes.CountAs others)
    (name shown : QualifiedName) (declaration : Option KnownElement) (type : KnownType) :
    (validator.openedFrame name attributes declaration type).Respells
      (other.openedFrame shown others declaration type) := by
  obtain ⟨isNil, isRefused, -⟩ := claimNil_respells same alike name.raw shown.raw declaration
  refine ⟨shown, ?_⟩
  unfold openedFrame
  dsimp only
  rw [isNil, isRefused]

theorem openTyped_respells (same : validator.Respells other) (alike : attributes.CountAs others)
    {name shown : QualifiedName} (named : shown.expanded = name.expanded)
    (declaration : Option KnownElement) (type : KnownType) :
    SameReception (validator.openTyped name attributes declaration type)
      (other.openTyped shown others declaration type) := by
  obtain ⟨-, -, ofClaim⟩ := claimNil_respells same alike name.raw shown.raw declaration
  obtain ⟨supplied, typed, ofAttributes⟩ := assess_respells same alike name shown type
  have event := typedStart_respells same alike named declaration type
  have frame := openedFrame_respells same alike name shown declaration type
  -- the parts of opening an element, once for each of the two
  let values (validator : Validator) (name : QualifiedName) (attributes : Attributes) :=
    (AttributeContext.assess ⟨validator.registry, validator.scopes, name.raw⟩
      validator.isValidating (attributesOf type.definition) attributes).2.1
  let taken (validator : Validator) (name : QualifiedName) (attributes : Attributes) :=
    takeIdentifiers validator.identifiers name.raw (values validator name attributes)
  let ready (validator : Validator) (name : QualifiedName) (attributes : Attributes) : Validator :=
    { validator with
      identifiers := (taken validator name attributes).1
      frames := validator.openedFrame name attributes declaration type :: validator.frames }
  have identifiers : SameButTexts (taken validator name attributes) (taken other shown others) := by
    have known : other.identifiers = validator.identifiers :=
      same.read Validator.identifiers fun _ => rfl
    have given : values other shown others = values validator name attributes := typed
    unfold taken
    rw [known, given]
    exact takeIdentifiers_wording ..
  have opened : (ready validator name attributes).Respells (ready other shown others) := by
    unfold ready
    rw [identifiers.result]
    obtain ⟨frames, respelled, rfl⟩ := same
    exact ⟨_, .cons frame respelled, rfl⟩
  have seen := startIdentities_respells opened event
  exact ⟨seen.validator, supplied, ((((abstractType_wording name.raw shown.raw type).append
    ofClaim).append ofAttributes).append identifiers.rules).append seen.rules⟩

theorem enterSkip_respells (same : validator.Respells other) (name shown : QualifiedName) :
    (validator.enterSkip name).Respells (other.enterSkip shown) := by
  obtain ⟨frames, respelled, rfl⟩ := same
  exact ⟨_, .cons ⟨shown, rfl⟩ respelled, rfl⟩

theorem openElement_respells (same : validator.Respells other) (alike : attributes.CountAs others)
    {name shown : QualifiedName} (named : shown.expanded = name.expanded)
    (declaration : Option KnownElement) (isStrict : Bool) :
    SameReception (validator.openElement name attributes declaration isStrict)
      (other.openElement shown others declaration isStrict) := by
  obtain ⟨governs, ofType⟩ := governingType_respells same alike name.raw shown.raw declaration
  have before := (abstractDeclaration_wording name.raw shown.raw declaration).append ofType
  unfold openElement
  dsimp only
  rw [governs]
  split
  · exact ⟨enterSkip_respells same name shown, alike,
      before.append (undeclared_respells same name.raw shown.raw isStrict)⟩
  · obtain ⟨opened, supplied, found⟩ := openTyped_respells same alike named declaration _
    exact ⟨opened, supplied, before.append found⟩

theorem receive_respells (same : validator.Respells other) (alike : attributes.CountAs others)
    {name shown : QualifiedName} (named : shown.expanded = name.expanded) :
    SameReception (validator.receive name attributes) (other.receive shown others) := by
  obtain ⟨offered, admitted⟩ := offer_respells same name.expanded
  have registry : (other.offer name.expanded).1.registry =
      (validator.offer name.expanded).1.registry := offered.read Validator.registry fun _ => rfl
  have rejected := rejection_wording name.raw shown.raw (validator.offer name.expanded).2
  unfold receive
  rw [named]
  dsimp only
  rw [admitted, registry]
  split
  · exact ⟨enterSkip_respells offered name shown, alike, rejected⟩
  · obtain ⟨opened, supplied, found⟩ := openElement_respells offered alike named _ _
    exact ⟨opened, supplied, rejected.append found⟩

/-! ### Start tags -/

theorem assessStart_respells (same : validator.Respells other) (alike : attributes.CountAs others)
    {name shown : QualifiedName} (named : shown.expanded = name.expanded) :
    (validator.assessStart name attributes).Respells (other.assessStart shown others) := by
  have space : shown.space = name.space := congrArg ExpandedName.space named
  have begun := beginRoot_respells same
  have hinted := loadHinted_respells begun alike name.raw shown.raw
  have decided := decideDynamic_respells hinted.validator name.space
  have received := receive_respells decided alike named
  unfold assessStart
  dsimp only
  rw [space, begun.isValidating, decided.isValidating]
  exact ⟨received.validator, (hinted.rules.told _).append (received.rules.told _),
    .cons (.startElement named received.attributes.respells) .nil, rfl⟩

/-- A start tag does the same with other prefixes. -/
theorem start_respells (same : validator.Respells other) (alike : attributes.CountAs others)
    {name shown : QualifiedName} (named : shown.expanded = name.expanded) :
    (validator.start name attributes).Respells (other.start shown others) := by
  have limits : other.deeper.checkLimits others = validator.deeper.checkLimits attributes := by
    have long : attributes.length = others.length := List.Forall₂.length_eq alike
    refine (same.read (fun validator => validator.deeper.checkLimits others) fun _ => rfl).trans ?_
    unfold checkLimits
    rw [long]
  have skips : other.isSkipping = validator.isSkipping := congrArg Option.isSome same.skipDepth
  have deeper := same.map Validator.deeper (fun _ => rfl) rfl
  have entered := same.map Validator.entered (fun _ => rfl) rfl
  rw [start_eq, start_eq, limits, skips]
  split
  · exact ⟨deeper, rfl, .nil, rfl⟩
  · split
    · exact ⟨entered, rfl, .cons (.startElement named alike.respells) .nil, rfl⟩
    · exact assessStart_respells entered alike named

/-! ### End tags -/

theorem finishIdentifiers_respells (same : validator.Respells other) (element shown : String)
    (typed : Option TypedAttribute) :
    SameCourse (validator.finishIdentifiers element typed)
      (other.finishIdentifiers shown typed) := by
  obtain ⟨frames, respelled, rfl⟩ := same
  cases typed with
  | none => exact ⟨⟨frames, respelled, rfl⟩, rfl⟩
  | some typed =>
    obtain ⟨taken, found⟩ :=
      validator.identifiers.take_wording element shown typed.value typed.idKind
    unfold finishIdentifiers
    dsimp only
    rw [taken]
    exact ⟨⟨frames, respelled, rfl⟩, found⟩

theorem finishIdentities_respells (same : validator.Respells other) (value : Option Value)
    (element shown : String) :
    SameCourse (validator.finishIdentities value element)
      (other.finishIdentities value shown) := by
  obtain ⟨frames, respelled, rfl⟩ := same
  obtain ⟨state, rules⟩ := validator.identities.finish_wording value element shown
  unfold finishIdentities
  dsimp only
  split
  · rw [state]
    exact ⟨⟨frames, respelled, rfl⟩, rules⟩
  · exact ⟨⟨frames, respelled, rfl⟩, rfl⟩

theorem checkReferences_respells (same : validator.Respells other) (element shown : String) :
    SameRules (validator.checkReferences element) (other.checkReferences shown) := by
  have atRoot : other.frames.isEmpty = validator.frames.isEmpty := same.isAtRoot
  unfold checkReferences
  rw [atRoot]
  obtain ⟨frames, -, rfl⟩ := same
  split
  · exact .map _
  · rfl

/-- Two elements that are closed, each with the validator behind it, the text that is supplied, and
what was found. -/
structure SameClosing (left right : Validator × Option String × List Diagnostic) : Prop where
  validator : left.1.Respells right.1
  supplied : right.2.1 = left.2.1
  rules : SameRules left.2.2 right.2.2

theorem closeElement_respells (same : validator.Respells other) (frame : Frame)
    (name : QualifiedName) {outer others : List Frame}
    (around : List.Forall₂ Frame.Respells outer others) :
    SameClosing (validator.closeElement frame outer)
      (other.closeElement { frame with name } others) := by
  have content : SameButTexts (validator.assessContent frame)
      (other.assessContent { frame with name }) := by
    rw [same.read (fun validator => validator.assessContent { frame with name }) fun _ => rfl]
    exact validator.assessContent_respells frame name
  have identifiers := finishIdentifiers_respells same frame.raw name.raw
    (validator.assessContent frame).1.typed
  have identities := finishIdentities_respells identifiers.validator
    (identityValue frame (validator.assessContent frame).1) frame.raw name.raw
  have behind := identities.validator.withFrames around
  have value (found : AssessedContent) :
      identityValue { frame with name } found = identityValue frame found := rfl
  unfold closeElement
  dsimp only
  rw [content.result, value]
  exact ⟨behind, rfl, ((content.rules.append identifiers.rules).append identities.rules).append
    (checkReferences_respells behind frame.raw name.raw)⟩

theorem leaveSkip_respells (same : validator.Respells other) (skipDepth : Nat) :
    (validator.leaveSkip skipDepth).Respells (other.leaveSkip skipDepth) := by
  obtain ⟨frames, respelled, rfl⟩ := same
  unfold leaveSkip
  dsimp only
  split
  · exact ⟨frames.tail, by simpa using List.forall₂_drop 1 respelled, rfl⟩
  · exact ⟨frames, respelled, rfl⟩

theorem close_respells (same : validator.Respells other) :
    SameClosing validator.close other.close := by
  have around := same.frames
  unfold close
  rw [same.skipDepth]
  cases validator.skipDepth with
  | some skipDepth => exact ⟨leaveSkip_respells same skipDepth, rfl, rfl⟩
  | none =>
    generalize validator.frames = frames, other.frames = others at around ⊢
    cases around with
    | nil => exact ⟨same, rfl, rfl⟩
    | @cons frame _ outer _ first rest =>
      obtain ⟨name, rfl⟩ := first
      exact closeElement_respells same frame name rest

/-- An end tag does the same with another prefix. -/
theorem finish_respells (same : validator.Respells other) {name shown : QualifiedName}
    (named : shown.expanded = name.expanded) :
    (validator.finish name).Respells (other.finish shown) := by
  obtain ⟨closed, supplied, found⟩ := close_respells same
  have left := closed.map leaveScope (fun _ => rfl) rfl
  unfold finish
  dsimp only
  rw [supplied, same.isValidating]
  refine ⟨left, found.told _, ?_, rfl⟩
  exact List.rel_append (List.forall₂_same.mpr fun event _ => .refl event)
    (.cons (.endElement named) .nil)

/-! ### Documents -/

theorem addText_respells (same : validator.Respells other) (text : String) :
    (validator.addText text).Respells (other.addText text) := by
  obtain ⟨shown, respelled, rfl⟩ := same
  -- text is added depending on the depth and on the open elements, both of which stay
  obtain ⟨_, _, _, _, _, inside, _, skipDepth, _, _, _, _⟩ := validator
  dsimp only at respelled
  cases skipDepth with
  | some skipDepth => exact ⟨shown, respelled, rfl⟩
  | none =>
    cases respelled with
    | nil => exact ⟨[], .nil, rfl⟩
    | cons first rest =>
      obtain ⟨name, rfl⟩ := first
      exact ⟨_, .cons ⟨name, rfl⟩ rest, rfl⟩

/-- An event does the same with other prefixes: the validators behind it are the same but for names as
written, and what it finds and what it passes on is the same but for those prefixes. -/
theorem step_respells (same : validator.Respells other) {event shown : Event}
    (respelled : event.Respells shown) (plain : event.IsPlain) (plainShown : shown.IsPlain) :
    (validator.step event).Respells (other.step shown) := by
  have passes (left right : Validator) (same : left.Respells right) (event : Event) :
      (left.pass event).Respells (right.pass event) :=
    ⟨same, rfl, .cons (.refl event) .nil, rfl⟩
  cases respelled with
  | startElement named alike =>
    exact start_respells same (.of_respells alike (plain _ rfl) (plainShown _ rfl)) named
  | endElement named => exact finish_respells same named
  | refl event =>
    -- the same event, but the validators may still differ by what came before
    cases event with
    | startElement name attributes => exact start_respells same (.refl attributes) rfl
    | endElement name => exact finish_respells same rfl
    | characters text => exact passes _ _ (addText_respells same text) _
    | startDocument =>
      have anew : other.reset = validator.reset := same.read reset fun _ => rfl
      exact passes _ _ ⟨[], .nil, anew⟩ _
    | startPrefix prefixName uri =>
      have binds := same.map (fun validator =>
        { validator with pending := validator.pending ++ [(prefixName, uri)] }) (fun _ => rfl) rfl
      exact passes _ _ binds _
    | endDocument => exact passes _ _ (same.map release (fun _ => rfl) rfl) _
    | _ => exact passes _ _ same _

section Run

variable {events others : List Event}

theorem outcomes_respells (same : validator.Respells other)
    (respelled : List.Forall₂ Event.Respells events others)
    (plain : ∀ event ∈ events, event.IsPlain) (plainOthers : ∀ event ∈ others, event.IsPlain) :
    List.Forall₂ (fun left right => left.2.Respells right.2) (validator.outcomes events)
      (other.outcomes others) := by
  induction respelled generalizing validator other with
  | nil => exact .nil
  | cons first _ ofRest =>
    obtain ⟨here, later⟩ := List.forall_mem_cons.mp plain
    obtain ⟨hereOther, laterOther⟩ := List.forall_mem_cons.mp plainOthers
    have step := step_respells same first here hereOther
    exact .cons step (ofRest step.validator later laterOther)

theorem run_respells (same : validator.Respells other)
    (respelled : List.Forall₂ Event.Respells events others)
    (plain : ∀ event ∈ events, event.IsPlain) (plainOthers : ∀ event ∈ others, event.IsPlain) :
    (validator.run events).Respells (other.run others) := by
  induction respelled generalizing validator other with
  | nil => exact ⟨same, rfl, .nil, rfl⟩
  | cons first _ ofRest =>
    obtain ⟨here, later⟩ := List.forall_mem_cons.mp plain
    obtain ⟨hereOther, laterOther⟩ := List.forall_mem_cons.mp plainOthers
    have step := step_respells same first here hereOther
    have rest := ofRest step.validator later laterOther
    rw [run, run]
    dsimp only
    rw [step.failure]
    split
    · exact step
    · exact ⟨rest.validator, step.rules.append rest.rules, List.rel_append step.events rest.events,
        rest.failure⟩

/-- Prefixes carry no meaning. Of two documents that differ only in the prefixes of the names of
elements and attributes, none of which is named like the declaration of a namespace, the same
rules are found broken in the same order, what is passed on differs only in such prefixes, and
the runs fail alike. This holds event by event, also behind one that fails. -/
theorem run_of_respelled (registry : Registry) (source : Option GrammarSource)
    (configuration : Configuration) (respelled : List.Forall₂ Event.Respells events others)
    (plain : ∀ event ∈ events, event.IsPlain) (plainOthers : ∀ event ∈ others, event.IsPlain) :
    let begun := initial registry source configuration
    let agree (left right : Outcome) : Prop :=
      right.diagnostics.map Diagnostic.rule = left.diagnostics.map Diagnostic.rule ∧
        List.Forall₂ Event.Respells left.events right.events ∧ right.failure = left.failure
    agree (begun.run events) (begun.run others) ∧
      List.Forall₂ (fun left right => agree left.2 right.2) (begun.outcomes events)
        (begun.outcomes others) := by
  intro begun agree
  have agrees {left right : Outcome} (same : left.Respells right) : agree left right :=
    ⟨same.rules, same.events, same.failure⟩
  have same : begun.Respells begun := ⟨[], .nil, rfl⟩
  exact ⟨agrees (run_respells same respelled plain plainOthers),
    (outcomes_respells same respelled plain plainOthers).imp fun _ _ => agrees⟩

end Run

/-- A validator that knows of notes, each of which is a number. -/
def ofNotes : Validator :=
  let note : ElementDeclaration := { ElementDeclaration.ofName ⟨some "urn:notes", "note"⟩ with
    type := some (.simple (.ofDatatype .integer)) }
  .initial (.put .nothing ((Grammar.empty (some "urn:notes")).addElement note)) none {}

/-- A note that is not a number and has an attribute, in the namespace of two prefixes. -/
def noteSpelled (ofElement ofKind : String) : List Event := [
  .startDocument, .startPrefix "a" "urn:notes", .startPrefix "b" "urn:notes",
  .startElement ⟨some ofElement, "note", some "urn:notes"⟩
    [.specified ⟨some ofKind, "kind", some "urn:notes"⟩ "plain"],
  .characters "seven", .endElement ⟨some ofElement, "note", some "urn:notes"⟩,
  .endPrefix "a", .endPrefix "b", .endDocument]

theorem run_of_respelled_notes :
    let events := noteSpelled "a" "b"
    let others := noteSpelled "b" "a"
    events ≠ others ∧ List.Forall₂ Event.Respells events others ∧
      (ofNotes.run others).diagnostics.map Diagnostic.rule =
        (ofNotes.run events).diagnostics.map Diagnostic.rule ∧
      (ofNotes.run events).diagnostics.map Diagnostic.rule =
        [.simpleTypeAttribute, .simpleTypeValue] ∧
      (ofNotes.run others).diagnostics ≠ (ofNotes.run events).diagnostics := by
  intro events others
  have kinds : Attribute.Respells
      (.specified ⟨some "b", "kind", some "urn:notes"⟩ "plain")
      (.specified ⟨some "a", "kind", some "urn:notes"⟩ "plain") := ⟨rfl, rfl, rfl⟩
  have respelled : List.Forall₂ Event.Respells events others :=
    .cons (.refl _) (.cons (.refl _) (.cons (.refl _)
      (.cons (.startElement rfl (.cons kinds .nil)) (.cons (.refl _)
        (.cons (.endElement rfl) (List.forall₂_same.mpr fun event _ => .refl event))))))
  have plain (ofElement ofKind : String) (other : ofKind ≠ "xmlns") :
      ∀ event ∈ noteSpelled ofElement ofKind, event.IsPlain := by
    simp [noteSpelled, Event.IsPlain, Event.attributes?, Attribute.IsNamedXmlns,
      Attribute.specified, other]
  obtain ⟨⟨rules, -⟩, -⟩ := run_of_respelled _ none {} respelled
    (plain "a" "b" (by decide)) (plain "b" "a" (by decide))
  exact ⟨by decide, respelled, rules, by decide +kernel, by decide +kernel⟩

end Validator

end SchemaAssessment

/-
Which type governs an element. An instance may name a type in place of the declared one, and
gets it only if it is a global type that is derived from the declared one, where neither the
declaration nor its type blocks that; else the declared type stays, and one finding says why.
An element is opened under its type with the content model of that type in its first state.
However far a run has come, an element that is open has been opened like that.
-/

import SchemaAssessment.Proofs.Assessment.InStep
import SchemaAssessment.Proofs.Grammar.Derivation

namespace SchemaAssessment

/-! ### What may govern an element -/

/-- A type may govern an element: that of its declaration, or a global type that is derived from
this one without what the declaration or its type blocks. Where there is no declaration it is a
global type. -/
inductive Registry.Allows (registry : Registry) : Option KnownElement → KnownType → Prop where
  | declared (declaration : KnownElement) :
      Allows registry (some declaration) (registry.elementType declaration)
  | derived {declaration : KnownElement} {name : ExpandedName} {type : KnownType}
      (known : registry.type? name = some type)
      (derived : registry.isDerivedFrom type (registry.elementType declaration)
        (declaration.declaration.block.union
          (registry.elementType declaration).definition.block) = true) :
      Allows registry (some declaration) type
  | undeclared {name : ExpandedName} {type : KnownType}
      (known : registry.type? name = some type) : Allows registry none type

/-- What comes of a type that an instance names for a declared element: the type that governs the
element then, and the rule under which the named one is refused. -/
inductive Registry.Chooses (registry : Registry) (scopes : NamespaceScopes)
    (declaration : KnownElement) (written : String) : KnownType → Option Rule → Prop where
  | installed {name : ExpandedName} {type : KnownType}
      (means : scopes.resolve written = .ok name) (proper : Name.isQName written = true)
      (known : registry.type? name = some type)
      (derived : registry.isDerivedFrom type (registry.elementType declaration)
        (declaration.declaration.block.union
          (registry.elementType declaration).definition.block) = true) :
      Chooses registry scopes declaration written type none
  | improper (improper : ∀ name, scopes.resolve written = .ok name →
        Name.isQName written = false) :
      Chooses registry scopes declaration written (registry.elementType declaration)
        (some .invalidXsiType)
  | unknown {name : ExpandedName} (means : scopes.resolve written = .ok name)
      (proper : Name.isQName written = true) (unknown : registry.type? name = none) :
      Chooses registry scopes declaration written (registry.elementType declaration)
        (some .xsiTypeNotFound)
  | underived {name : ExpandedName} {type : KnownType}
      (means : scopes.resolve written = .ok name) (proper : Name.isQName written = true)
      (known : registry.type? name = some type)
      (underived : registry.isDerivedFrom type (registry.elementType declaration)
        (declaration.declaration.block.union
          (registry.elementType declaration).definition.block) = false) :
      Chooses registry scopes declaration written (registry.elementType declaration)
        (some .xsiTypeNotDerived)

/-- The content with which an element of a type begins: the content model of the type in its first
state, where the type has children. -/
inductive TypeDefinition.BeginsWith : TypeDefinition → Option OpenContent → Prop where
  | simple (type : SimpleType) : BeginsWith (.simple type) none
  | childless {type : ComplexType} (content : type.content = .empty ∨ type.content = .simple) :
      BeginsWith (.complex type) none
  | children {type : ComplexType} {model : ContentModel ElementTerm}
      (content : type.content = .elementOnly ∨ type.content = .mixed)
      (compiled : model = ContentModel.ofGroup ElementTerm.label (type.group.getD .empty)) :
      BeginsWith (.complex type) (some ⟨model, .valid model.start⟩)

variable {registry : Registry} {scopes : NamespaceScopes} {declaration : KnownElement}
  {written : String} {type other : KnownType} {refusal otherRefusal : Option Rule}

theorem Registry.Chooses.unique
    (left : registry.Chooses scopes declaration written type refusal)
    (right : registry.Chooses scopes declaration written other otherRefusal) :
    other = type ∧ otherRefusal = refusal := by
  -- Two ways would disagree about what the name means or about what is found under it.
  cases left <;> cases right <;> simp_all

theorem Registry.Chooses.allows
    (chooses : registry.Chooses scopes declaration written type refusal) :
    registry.Allows (some declaration) type := by
  cases chooses with
  | installed means proper known derived => exact .derived known derived
  | improper | unknown | underived => exact .declared declaration

theorem TypeDefinition.beginsWith (definition : TypeDefinition) :
    definition.BeginsWith ((Validator.contentModel? definition).map OpenContent.start) := by
  cases definition with
  | simple type => exact .simple type
  | complex type =>
    rw [Validator.contentModel?, ComplexType.contentGroup?]
    split
    · rename_i content
      exact .children (.inl content) rfl
    · rename_i content
      exact .children (.inr content) rfl
    · rename_i content
      exact .childless (.inl content)
    · rename_i content
      exact .childless (.inr content)

namespace Validator

/-! ### Choosing a type -/

/-- What is found when the type that an instance names is refused. -/
def refusals (name : QualifiedName) (value : String) (refusal : Option Rule) : List Diagnostic :=
  refusal.toList.map fun rule => ⟨rule, name.raw, [name.raw, Text.trim value]⟩

theorem chosenType_chooses (validator : Validator) (name : QualifiedName)
    (declaration : KnownElement) (value : String) :
    ∃ type refusal, validator.registry.Chooses validator.scopes declaration (Text.trim value) type
        refusal ∧
      validator.chosenType name.raw (some declaration)
        (some (validator.registry.elementType declaration)) value =
          (some type, refusals name value refusal) := by
  unfold chosenType
  dsimp only
  split
  · rename_i chosen means proper
    split
    · rename_i unknown
      exact ⟨_, _, .unknown means proper unknown, rfl⟩
    · rename_i impossible
      cases impossible
    · rename_i found declared known same
      obtain rfl := Option.some.inj same
      dsimp only [Option.map_some, Option.getD_some]
      split
      · rename_i derived
        exact ⟨_, _, .installed means proper known derived, rfl⟩
      · rename_i underived
        exact ⟨_, _, .underived means proper known (Bool.eq_false_iff.mpr underived), rfl⟩
  · rename_i improper
    refine ⟨_, _, .improper fun chosen means => ?_, rfl⟩
    exact Bool.eq_false_iff.mpr fun proper => improper chosen means proper

/-- Only a type that is allowed governs an element, and what is found is why the named one is
refused. -/
theorem governingType_allows {validator : Validator} {name : QualifiedName}
    {declaration : Option KnownElement} {attributes : Attributes} {type : KnownType}
    (governs : (validator.governingType name.raw declaration attributes).1 = some type) :
    validator.registry.Allows declaration type ∧
      ∀ found value, declaration = some found →
        attributes.value? (instanceName "type") = some value → ∃ refusal,
          validator.registry.Chooses validator.scopes found (Text.trim value) type refusal ∧
            (validator.governingType name.raw declaration attributes).2 =
              refusals name value refusal := by
  cases named : attributes.value? (instanceName "type") with
  | none =>
    have plain : validator.governingType name.raw declaration attributes =
        (declaration.map validator.registry.elementType, []) := by
      rw [governingType, named]
    rw [plain] at governs
    obtain ⟨found, rfl, rfl⟩ := Option.map_eq_some_iff.mp governs
    exact ⟨.declared found, nofun⟩
  | some value =>
    have chosen : validator.governingType name.raw declaration attributes =
        validator.chosenType name.raw declaration
          (declaration.map validator.registry.elementType) value := by
      rw [governingType, named]
    rw [chosen] at governs ⊢
    cases declaration with
    | some found =>
      obtain ⟨chosen, refusal, chooses, same⟩ := validator.chosenType_chooses name found value
      rw [Option.map_some, same] at governs ⊢
      obtain rfl := Option.some.inj governs
      refine ⟨chooses.allows, ?_⟩
      rintro _ _ ⟨⟩ ⟨⟩
      exact ⟨refusal, chooses, rfl⟩
    | none =>
      refine ⟨?_, nofun⟩
      unfold chosenType at governs
      dsimp only [Option.map_none] at governs
      split at governs
      · split at governs
        · cases governs
        · rename_i known _
          obtain rfl := Option.some.inj governs
          exact .undeclared known
        · rename_i impossible
          cases impossible
      · cases governs

/-! ### Start tags -/

/-- An element that is received is passed through, or it is opened under the type that governs it.
What is found about that type stands between other things. -/
theorem receive_opens (validator : Validator) (name : QualifiedName) (attributes : Attributes) :
    let offered := (validator.offer name.expanded).1
    let received := validator.receive name attributes
    received.1 = offered.enterSkip name ∨
      ∃ declaration type before after,
        (offered.governingType name.raw declaration attributes).1 = some type ∧
          received.1 = (offered.openTyped name attributes declaration type).1 ∧
            Under [.invalidChild, .abstractElement] before ∧ Under Rule.ofTypedOpening after ∧
              received.2.2 =
                before ++ (offered.governingType name.raw declaration attributes).2 ++ after := by
  rcases validator.receive_ways name attributes with ⟨-, same⟩ |
    ⟨declaration, isStrict, -, ⟨-, same⟩ | ⟨type, governs, same⟩⟩
  · rw [same]
    exact .inl rfl
  · rw [same]
    exact .inl rfl
  · rw [same]
    have before : Under [.invalidChild, .abstractElement]
        (rejection name.raw (validator.offer name.expanded).2 ++
          abstractDeclaration name.raw declaration) :=
      ((rejection_under ..).mono (by decide)).append
        ((abstractDeclaration_under ..).mono (by decide))
    refine .inr ⟨declaration, type, _, _, governs, rfl, before,
      (validator.offer name.expanded).1.openTyped_under name attributes declaration type, ?_⟩
    simp only [List.append_assoc]

/-- A start tag puts an element that is assessed under a type on top of those that are open. -/
structure Opens (validator : Validator) (name : QualifiedName) (attributes : Attributes)
    (frame : Frame) (type : KnownType) : Prop where
  frames : ∃ outer, (validator.start name attributes).validator.frames = frame :: outer ∧
    outer.length = validator.frames.length
  typed : frame.type = some type

/-- The element that a start tag has opened begins with the content of its type, and this type may
govern it. Where it is declared and the instance names a type for it, it is settled in one way only
what comes of the named type; and under the rules about such types nothing is told but that it is
refused, if it is. -/
structure Installs (outcome : Outcome) (name : QualifiedName) (attributes : Attributes)
    (frame : Frame) (type : KnownType) : Prop where
  begins : type.definition.BeginsWith frame.content
  allowed : outcome.validator.registry.Allows frame.declaration type
  chosen : ∀ declaration value, frame.declaration = some declaration →
    attributes.value? (instanceName "type") = some value → ∃ refusal,
      (outcome.validator.registry.Chooses outcome.validator.scopes declaration (Text.trim value)
        type refusal) ∧
      (∀ other otherRefusal, outcome.validator.registry.Chooses outcome.validator.scopes
        declaration (Text.trim value) other otherRefusal →
          other = type ∧ otherRefusal = refusal) ∧
      ∀ rule ∈ Rule.ofChosenTypes, underRule rule outcome.diagnostics =
        told outcome.validator.isValidating
          (if refusal = some rule then [⟨rule, name.raw, [name.raw, Text.trim value]⟩] else [])

theorem underRule_refusals (rule : Rule) (name : QualifiedName) (value : String)
    (refusal : Option Rule) :
    underRule rule (refusals name value refusal) =
      if refusal = some rule then [⟨rule, name.raw, [name.raw, Text.trim value]⟩] else [] := by
  cases refusal with
  | none => rfl
  | some other =>
    by_cases same : other = rule
    · simp [refusals, underRule, same]
    · simp [refusals, underRule, same]

/-- What is told about a named type is what is found about it. -/
theorem underRule_chosen {rule : Rule} (listed : rule ∈ Rule.ofChosenTypes)
    {hints before found after : List Diagnostic} (ofHints : Under [.schemaLoad] hints)
    (ofBefore : Under [.invalidChild, .abstractElement] before)
    (ofAfter : Under Rule.ofTypedOpening after) (isValidating : Bool) :
    underRule rule (hints ++ told isValidating (before ++ found ++ after)) =
      told isValidating (underRule rule found) := by
  have apart : rule ∉ [Rule.schemaLoad] ∧ rule ∉ [Rule.invalidChild, .abstractElement] ∧
      rule ∉ Rule.ofTypedOpening := by
    revert rule
    decide
  rw [underRule_append, ofHints.underRule_eq_nil apart.1, List.nil_append]
  cases isValidating with
  | false => rfl
  | true =>
    show underRule rule (before ++ found ++ after) = underRule rule found
    rw [underRule_append, underRule_append, ofBefore.underRule_eq_nil apart.2.1,
      ofAfter.underRule_eq_nil apart.2.2, List.nil_append, List.append_nil]

/-- Whatever the state of a validator, an element that it opens is opened under a type that may
govern it. -/
theorem start_installs {validator : Validator} {name : QualifiedName} {attributes : Attributes}
    {frame : Frame} {type : KnownType} (opens : validator.Opens name attributes frame type) :
    Installs (validator.start name attributes) name attributes frame type := by
  obtain ⟨⟨outer, frames, deeper⟩, typed⟩ := opens
  have grows : (validator.start name attributes).validator.frames ≠ validator.frames := by
    intro same
    rw [same] at frames
    rw [frames, List.length_cons] at deeper
    exact Nat.succ_ne_self _ deeper.symm
  rcases validator.start_cases name attributes with
    ⟨-, behind, -⟩ | ⟨-, passed, -⟩ | ⟨-, -, behind, ⟨hints, ofHints, found⟩, -⟩
  · exact absurd (congrArg Validator.frames behind) grows
  · exact absurd (congrArg (fun outcome => outcome.validator.frames) passed) grows
  · let offered := ((validator.prepared name attributes).offer name.expanded).1
    rw [behind] at frames
    rcases (validator.prepared name attributes).receive_opens name attributes with
      skipped | ⟨declaration, chosen, before, after, governs, opened, ofBefore, ofAfter, told_⟩
    · rw [skipped] at frames
      obtain rfl := (List.cons.inj frames).1
      cases typed
    · obtain ⟨⟨identifiers, identities, state⟩, -⟩ :=
        offered.openTyped_shape name attributes declaration chosen
      rw [opened, state] at frames
      obtain rfl := (List.cons.inj frames).1
      obtain rfl := Option.some.inj typed
      obtain ⟨allowed, choice⟩ := governingType_allows governs
      rw [told_] at found
      refine ⟨chosen.definition.beginsWith, ?_, fun declared value given named => ?_⟩
      · rw [behind, opened, state]
        exact allowed
      · obtain ⟨refusal, chooses, refused⟩ := choice declared value given named
        rw [behind, opened, state]
        refine ⟨refusal, chooses, fun _ _ => chooses.unique, fun rule listed => ?_⟩
        rw [found, underRule_chosen listed ofHints ofBefore ofAfter, refused, underRule_refusals]
        exact congrArg (told · _) (validator.prepared name attributes
          |>.offer_isValidating name.expanded).symm

end Validator

/-! ### Open elements -/

/-- An open element is an earlier one, of which more may have been seen. -/
structure Frame.Continues (frame earlier : Frame) : Prop where
  same : frame.IsSame earlier
  model : frame.content.map OpenContent.model = earlier.content.map OpenContent.model

namespace Frame

theorem Continues.refl (frame : Frame) : frame.Continues frame := ⟨⟨rfl, rfl, rfl⟩, rfl⟩

theorem Continues.trans {first middle last : Frame} (left : first.Continues middle)
    (right : middle.Continues last) : first.Continues last where
  same := ⟨left.same.name.trans right.same.name,
    left.same.declaration.trans right.same.declaration, left.same.type.trans right.same.type⟩
  model := left.model.trans right.model

theorem continues_addText (frame : Frame) (text : String) :
    (frame.addText text).Continues frame :=
  ⟨frame.isSame_addText text, rfl⟩

theorem continues_takeChild (frame : Frame) (registry : Registry) (child : ExpandedName) :
    (frame.takeChild registry child).1.Continues frame := by
  obtain ⟨content, taken, model⟩ := frame.takeChild_eq registry child
  refine ⟨frame.isSame_takeChild registry child, ?_⟩
  rw [taken]
  exact model

theorem continues_modifyHead {frames : List Frame} {change : Frame → Frame}
    (continues : ∀ frame, (change frame).Continues frame) {frame : Frame}
    (member : frame ∈ frames.modifyHead change) : ∃ earlier ∈ frames, frame.Continues earlier := by
  cases frames with
  | nil => cases member
  | cons first outer =>
    rcases List.mem_cons.mp member with rfl | member
    · exact ⟨first, List.mem_cons_self, continues first⟩
    · exact ⟨frame, List.mem_cons_of_mem _ member, .refl frame⟩

end Frame

namespace Validator

/-! ### Runs -/

theorem addText_frames (validator : Validator) (text : String) {frame : Frame}
    (member : frame ∈ (validator.addText text).frames) :
    ∃ earlier ∈ validator.frames, frame.Continues earlier := by
  unfold addText at member
  split at member
  · rename_i first outer outside frames
    rw [frames]
    exact Frame.continues_modifyHead (fun frame => frame.continues_addText text) member
  · exact ⟨frame, member, .refl frame⟩

/-- Behind an event an open element has been open before it, or the event is the start tag that has
opened it. -/
theorem step_frames (validator : Validator) (event : Event) {frame : Frame}
    (member : frame ∈ (validator.step event).validator.frames) :
    (∃ earlier ∈ validator.frames, frame.Continues earlier) ∨
      ∃ name attributes outer, event = .startElement name attributes ∧
        (validator.start name attributes).validator.frames = frame :: outer ∧
          outer.length = validator.frames.length := by
  cases event with
  | startDocument => cases member
  | startElement name attributes =>
    rcases validator.start_cases name attributes with
      ⟨-, behind, -⟩ | ⟨-, passed, -⟩ | ⟨outside, passes, -⟩
    · rw [step, behind] at member
      exact .inl ⟨frame, member, .refl frame⟩
    · rw [step, passed] at member
      exact .inl ⟨frame, member, .refl frame⟩
    · obtain ⟨child, -, -, frames⟩ := (start_receives passes outside).admits.frames
      rw [step, frames] at member
      rcases List.mem_cons.mp member with rfl | member
      · exact .inr ⟨name, attributes, _, rfl, frames, List.length_modifyHead ..⟩
      · exact .inl (Frame.continues_modifyHead
          (fun parent => parent.continues_takeChild _ name.expanded) member)
  | characters text => exact .inl (validator.addText_frames text member)
  | endElement name =>
    rw [step, (validator.finish_leaves name).frames] at member
    split at member
    · exact .inl ⟨frame, List.mem_of_mem_tail member, .refl frame⟩
    · exact .inl ⟨frame, member, .refl frame⟩
  | _ => exact .inl ⟨frame, member, .refl frame⟩

/-- Behind a run an element that is open and assessed has been open before, or a start tag of the
run has opened it. -/
theorem run_frames (validator : Validator) (events : List Event) {frame : Frame} {type : KnownType}
    (member : frame ∈ (validator.run events).validator.frames) (typed : frame.type = some type) :
    (∃ earlier ∈ validator.frames, frame.Continues earlier) ∨
      ∃ before name attributes after opened,
        events = before ++ .startElement name attributes :: after ∧
          (validator.run before).failure = none ∧
            (validator.run before).validator.Opens name attributes opened type ∧
              frame.Continues opened := by
  induction events generalizing validator with
  | nil => exact .inl ⟨frame, member, .refl frame⟩
  | cons event rest ofRest =>
    have atStep {middle : Frame} (inside : middle ∈ (validator.step event).validator.frames)
        (continues : frame.Continues middle) : (∃ earlier ∈ validator.frames,
          frame.Continues earlier) ∨ ∃ before name attributes after opened,
            event :: rest = before ++ .startElement name attributes :: after ∧
              (validator.run before).failure = none ∧
                (validator.run before).validator.Opens name attributes opened type ∧
                  frame.Continues opened := by
      rcases validator.step_frames event inside with ⟨earlier, known, further⟩ |
        ⟨name, attributes, outer, rfl, frames, deeper⟩
      · exact .inl ⟨earlier, known, continues.trans further⟩
      · exact .inr ⟨[], name, attributes, rest, middle, rfl, rfl,
          ⟨⟨outer, frames, deeper⟩, continues.same.type.symm.trans typed⟩, continues⟩
    cases failed : (validator.step event).failure with
    | some failure =>
      rw [run, failed] at member
      exact atStep member (.refl frame)
    | none =>
      rw [run_cons_of_passes failed] at member
      rcases ofRest _ member with ⟨middle, inside, continues⟩ |
        ⟨before, name, attributes, after, opened, rfl, runs, opens, continues⟩
      · exact atStep inside continues
      · refine .inr ⟨event :: before, name, attributes, after, opened, rfl, ?_, ?_, continues⟩
        · rw [run_cons_of_passes failed]
          exact runs
        · rw [run_cons_of_passes failed]
          exact opens

/-- However far a run has come, a start tag that opens an element under a type gives it the content
of that type and a type that may govern it, and settles what becomes of a type that the instance
names; and an element that is open and assessed has been open before the run, or a start tag of the
run has opened it like that. -/
theorem run_installs (validator : Validator) (events : List Event) :
    (∀ name attributes frame type,
      (validator.run events).validator.Opens name attributes frame type →
        Installs ((validator.run events).validator.start name attributes) name attributes frame
          type) ∧
    ∀ frame ∈ (validator.run events).validator.frames, ∀ type, frame.type = some type →
      (∃ earlier ∈ validator.frames, frame.Continues earlier) ∨
        ∃ before name attributes after opened,
          events = before ++ .startElement name attributes :: after ∧
            Installs ((validator.run before).validator.start name attributes) name attributes
              opened type ∧ frame.Continues opened := by
  refine ⟨fun _ _ _ _ => start_installs, fun frame member type typed => ?_⟩
  refine (validator.run_frames events member typed).imp_right ?_
  rintro ⟨before, name, attributes, after, opened, same, -, opens, continues⟩
  exact ⟨before, name, attributes, after, opened, same, start_installs opens, continues⟩

/-- A validator that knows the types of shapes, and the element `shape` of the first one. -/
def ofShapes : Validator :=
  let declared := { ElementDeclaration.ofName (.unqualified "shape") with
    type := some (.named (.unqualified "Shape")) }
  .initial (Registry.initial.put (Registry.shapes.addElement declared)) none {}

/-- The attribute by which an instance says that it is a circle. -/
def asCircle : Attributes :=
  [.specified ⟨some "xsi", "type", some instanceNamespace⟩ "Circle"]

/-- A shape that says that it is a circle is opened as one, with nothing found. -/
theorem run_installs_shapes :
    let begun := (ofShapes.run [.startDocument]).validator
    let opened := begun.start (plain "shape") asCircle
    ∃ frame type, begun.Opens (plain "shape") asCircle frame type ∧
      type.definition.shownName = "Circle" ∧ opened.diagnostics = [] ∧
        Installs opened (plain "shape") asCircle frame type ∧
          ∃ before name attributes after first,
            [.startDocument, .startElement (plain "shape") asCircle] =
                before ++ .startElement name attributes :: after ∧
              Installs ((ofShapes.run before).validator.start name attributes) name attributes
                first type ∧ frame.Continues first := by
  intro begun opened
  let frame := opened.validator.frames.headD { name := plain "" }
  let type := frame.type.get (by decide +kernel)
  have frames : opened.validator.frames = frame :: opened.validator.frames.tail := rfl
  have typed : frame.type = some type := (Option.some_get _).symm
  have opens : begun.Opens (plain "shape") asCircle frame type :=
    ⟨⟨_, frames, by decide +kernel⟩, typed⟩
  have installs := (run_installs ofShapes [.startDocument]).1 _ _ frame type opens
  have member : frame ∈ (ofShapes.run
      [.startDocument, .startElement (plain "shape") asCircle]).validator.frames := by
    have same : (ofShapes.run [.startDocument, .startElement (plain "shape") asCircle]).validator =
        opened.validator := rfl
    rw [same, frames]
    exact List.mem_cons_self
  rcases (run_installs ofShapes _).2 frame member type typed with ⟨_, impossible, -⟩ | stands
  · cases impossible
  · exact ⟨frame, type, opens, by decide +kernel, by decide +kernel, installs, stands⟩

end Validator

end SchemaAssessment

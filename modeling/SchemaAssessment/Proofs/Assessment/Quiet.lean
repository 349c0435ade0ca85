/-
Grammars that do not speak for an instance. By four attributes an instance speaks to its
validator, and a type may supply attributes; where no use supplies one of those four, the
types that a validator comes to have no such use either. It takes them from its grammars,
from the declarations in the content of the open elements, which come from such types, and
from the grammars that its source gives it.
-/

import SchemaAssessment.Proofs.Assessment.Hints
import SchemaAssessment.Proofs.Schema.Uses

namespace SchemaAssessment

/-- The use supplies an attribute by which an instance speaks to its validator. -/
def AttributeUse.speaks (use : AttributeUse TypeReference) : Bool :=
  use.effectiveConstraint.isSome &&
    Attribute.instanceNames.any fun localName => use.declaration.name == instanceName localName

/-- No use speaks for an instance. -/
def AreQuiet (uses : List (AttributeUse TypeReference)) : Prop :=
  ∀ use ∈ uses, use.speaks = false

theorem AreQuiet.subset {uses others : List (AttributeUse TypeReference)} (quiet : AreQuiet others)
    (within : uses ⊆ others) : AreQuiet uses :=
  fun use member => quiet use (within member)

theorem AreQuiet.append {uses others : List (AttributeUse TypeReference)} (quiet : AreQuiet uses)
    (also : AreQuiet others) : AreQuiet (uses ++ others) :=
  fun use member => (List.mem_append.mp member).elim (quiet use) (also use)

/-- No use of a grammar speaks for an instance. -/
def Grammar.IsQuiet (grammar : Grammar) : Prop := AreQuiet grammar.uses

/-- The content of an open element comes from a group without uses that speak for an instance. -/
def Frame.IsQuiet (frame : Frame) : Prop :=
  ∀ model, frame.content.map OpenContent.model = some model → ∃ group : Group ElementTerm,
    model = ContentModel.ofGroup ElementTerm.label group ∧ AreQuiet group.uses

namespace Validator

/-- The validator knows of no use that speaks for an instance, and comes to know of none. -/
structure IsQuiet (validator : Validator) : Prop where
  known : AreQuiet validator.registry.uses
  found : ∀ source, validator.source = some source → ∀ location grammar,
    source.load location = .ok grammar → grammar.IsQuiet
  frames : ∀ frame ∈ validator.frames, frame.IsQuiet

end Validator

/-! ### Open elements -/

namespace Frame

theorem IsQuiet.of_model {frame other : Frame} (quiet : other.IsQuiet)
    (same : frame.content.map OpenContent.model = other.content.map OpenContent.model) :
    frame.IsQuiet :=
  fun model some => quiet model (same.symm.trans some)

theorem IsQuiet.takeChild {parent : Frame} (quiet : parent.IsQuiet) (registry : Registry)
    (child : ExpandedName) : (parent.takeChild registry child).1.IsQuiet := by
  obtain ⟨content, taken, model⟩ := parent.takeChild_eq registry child
  exact quiet.of_model (by rw [taken, model])

/-- An element that the content takes has no use but those of the content and of the registry. -/
theorem IsQuiet.taken {parent : Frame} (quiet : parent.IsQuiet) {registry : Registry}
    (known : AreQuiet registry.uses) {child : ExpandedName} {declaration : KnownElement}
    (taken : (parent.takeChild registry child).2 = .taken (.element declaration)) :
    AreQuiet declaration.declaration.uses := by
  unfold Frame.takeChild at taken
  dsimp only at taken
  split at taken
  · rename_i content some _
    obtain ⟨group, model, quietGroup⟩ := quiet content.model (by rw [some]; rfl)
    unfold takeWithin at taken
    split at taken
    · split at taken
      · rename_i next particle steps
        obtain rfl := Admission.taken.inj taken
        rw [model] at steps
        obtain ⟨term, inside, takes⟩ := ContentModel.exists_leaf_of_step steps
        have ofTerm : AreQuiet term.uses := quietGroup.subset (Group.uses_of_leaf inside)
        exact (ofTerm.append known).subset (Registry.uses_of_takes takes)
      · cases taken
    · cases taken
    · cases taken
  · cases taken

end Frame

namespace Validator

theorem IsQuiet.of_same {validator behind : Validator} (quiet : validator.IsQuiet)
    (registry : behind.registry = validator.registry) (source : behind.source = validator.source)
    (frames : ∀ frame ∈ behind.frames, frame.IsQuiet) : behind.IsQuiet :=
  ⟨registry ▸ quiet.known, source ▸ quiet.found, frames⟩

/-! ### What governs an element -/

/-- A declaration under which an element is assessed has no use that speaks for an instance. -/
theorem IsQuiet.declaration {validator : Validator} (quiet : validator.IsQuiet)
    {name : ExpandedName} {declaration : KnownElement} {isStrict : Bool}
    (assessed : (validator.admission validator.registry name).receive validator.registry name =
      .assessed (some declaration) isStrict) :
    AreQuiet declaration.declaration.uses := by
  have global {found : KnownElement} (known : validator.registry.element? name = some found) :
      AreQuiet found.declaration.uses :=
    quiet.known.subset (Registry.uses_of_element? known)
  cases admitted : validator.admission validator.registry name with
  | byName =>
    rw [admitted] at assessed
    injection assessed with known
    exact global known
  | rejected expected =>
    rw [admitted] at assessed
    cases assessed
  | taken particle =>
    rw [admitted] at assessed
    cases particle with
    | wildcard wildcard =>
      unfold Admission.receive at assessed
      dsimp only at assessed
      split at assessed
      · cases assessed
      · injection assessed with known
        exact global known
      · injection assessed with known
        exact global known
    | element declaration =>
      injection assessed with same
      obtain rfl := Option.some.inj same
      unfold admission at admitted
      split at admitted
      · cases admitted
      · rename_i parent outer frames
        have ofParent := quiet.frames parent (frames ▸ List.mem_cons_self)
        exact ofParent.taken quiet.known admitted

/-- A type that governs an element has no use that speaks for an instance. -/
theorem IsQuiet.type {validator : Validator} (quiet : validator.IsQuiet) {element : String}
    {declaration : Option KnownElement} {attributes : Attributes} {type : KnownType}
    (declared : ∀ found, declaration = some found → AreQuiet found.declaration.uses)
    (governs : (validator.governingType element declaration attributes).1 = some type) :
    AreQuiet type.definition.uses := by
  have ofDeclaration {type : KnownType}
      (same : declaration.map validator.registry.elementType = some type) :
      AreQuiet type.definition.uses := by
    obtain ⟨found, given, rfl⟩ := Option.map_eq_some_iff.mp same
    exact ((declared found given).append quiet.known).subset (Registry.uses_elementType found)
  unfold governingType at governs
  dsimp only at governs
  split at governs
  · unfold chosenType at governs
    dsimp only at governs
    split at governs
    · split at governs
      · exact ofDeclaration governs
      · rename_i chosen found _
        obtain rfl := Option.some.inj governs
        exact quiet.known.subset (Registry.uses_of_type? found)
      · rename_i chosen own found _
        split at governs
        · obtain rfl := Option.some.inj governs
          exact quiet.known.subset (Registry.uses_of_type? found)
        · exact ofDeclaration governs
    · exact ofDeclaration governs
  · exact ofDeclaration governs

/-- An element that a type governs is opened under it. -/
theorem receive_of_governs (validator : Validator) {name : QualifiedName} {attributes : Attributes}
    {declaration : Option KnownElement} {isStrict : Bool} {type : KnownType}
    (assessed : (validator.admission validator.registry name.expanded).receive validator.registry
      name.expanded = .assessed declaration isStrict)
    (governs : ((validator.offer name.expanded).1.governingType name.raw declaration
      attributes).1 = some type) :
    let offered := (validator.offer name.expanded).1
    (validator.receive name attributes).1 =
        (offered.openTyped name attributes declaration type).1 ∧
      (validator.receive name attributes).2.1 =
        (offered.openTyped name attributes declaration type).2.1 := by
  have ways := validator.receive_ways name attributes
  rw [offer_eq] at governs ways ⊢
  rcases ways with ⟨aside, -⟩ | ⟨found, strict, received, ⟨untyped, -⟩ | ⟨other, given, same⟩⟩
  · cases aside.symm.trans assessed
  · cases received.symm.trans assessed
    cases untyped.symm.trans governs
  · cases received.symm.trans assessed
    cases given.symm.trans governs
    rw [same]
    exact ⟨rfl, rfl⟩

/-- An element is passed through just as it comes, or there is a type that governs it. -/
theorem receive_governed (validator : Validator) (name : QualifiedName) (attributes : Attributes) :
    (validator.receive name attributes).1 =
          (validator.offer name.expanded).1.enterSkip name ∧
        (validator.receive name attributes).2.1 = attributes ∨
      ∃ declaration isStrict type,
        (validator.admission validator.registry name.expanded).receive validator.registry
            name.expanded = .assessed declaration isStrict ∧
          ((validator.offer name.expanded).1.governingType name.raw declaration
            attributes).1 = some type := by
  have ways := validator.receive_ways name attributes
  rw [offer_eq] at ways ⊢
  rcases ways with ⟨-, same⟩ | ⟨declaration, isStrict, assessed, ⟨-, same⟩ | ⟨type, governs, -⟩⟩
  · rw [same]
    exact .inl ⟨rfl, rfl⟩
  · rw [same]
    exact .inl ⟨rfl, rfl⟩
  · exact .inr ⟨declaration, isStrict, type, assessed, governs⟩

/-! ### Events -/

theorem exists_load_of_find {source : GrammarSource} {space directory : Option String}
    {hint : String} {grammar : Grammar} (found : source.find space hint directory = .ok grammar) :
    ∃ location, source.load location = .ok grammar := by
  unfold GrammarSource.find at found
  cases located : (Location.resolve source.fileExists hint directory).mapError
      (fun fault => Failure.resource (.hint fault)) with
  | error failure => simp [located, bind, Except.bind] at found
  | ok location =>
    cases loaded : source.load location with
    | error failure => simp [located, loaded, bind, Except.bind] at found
    | ok other =>
      simp only [located, loaded, bind, Except.bind] at found
      split at found
      · obtain rfl := Except.ok.inj found
        exact ⟨location, loaded⟩
      · cases found

theorem IsQuiet.answer {validator : Validator} (quiet : validator.IsQuiet) {inquiry : Inquiry}
    {grammar : Grammar} (answered : validator.answer inquiry = .ok grammar) : grammar.IsQuiet := by
  unfold Validator.answer Inquiry.answer at answered
  split at answered
  · cases answered
  · rename_i source given
    obtain ⟨location, loads⟩ := exists_load_of_find answered
    exact quiet.found source given location grammar loads

theorem uses_put (registry : Registry) (grammar : Grammar) :
    (registry.put grammar).uses ⊆ grammar.uses ++ registry.uses := by
  intro use member
  obtain ⟨registration, registered, inside⟩ := List.mem_flatMap.mp member
  rcases List.mem_cons.mp registered with rfl | before
  · exact List.mem_append_left _ inside
  · exact List.mem_append_right _
      (Registry.uses_of_grammar (List.mem_filter.mp before).1 inside)

theorem IsQuiet.asks {validator behind : Validator} (quiet : validator.IsQuiet)
    {asked : List Inquiry} (asks : validator.Asks behind asked)
    (frames : ∀ frame ∈ behind.frames, frame.IsQuiet) : behind.IsQuiet := by
  refine ⟨?_, asks.source ▸ quiet.found, frames⟩
  have answered : ∀ grammar ∈ validator.answers asked, grammar.IsQuiet := by
    intro grammar member
    obtain ⟨inquiry, -, found⟩ := List.mem_filterMap.mp member
    cases answers : validator.answer inquiry with
    | error failure =>
      rw [answers] at found
      cases found
    | ok other =>
      rw [answers] at found
      obtain rfl := Option.some.inj found
      exact quiet.answer answers
  rw [asks.registry]
  have known := quiet.known
  generalize validator.registry = registry at known ⊢
  generalize validator.answers asked = grammars at answered ⊢
  induction grammars generalizing registry with
  | nil => exact known
  | cons grammar rest ofRest =>
    obtain ⟨here, later⟩ := List.forall_mem_cons.mp answered
    exact ofRest _ ((here.append known).subset (uses_put registry grammar)) later

/-- The validator that assesses a start tag knows of no use that speaks for an instance. -/
theorem IsQuiet.prepared {validator : Validator} (quiet : validator.IsQuiet) (name : QualifiedName)
    (attributes : Attributes) : (validator.prepared name attributes).IsQuiet := by
  have entered : validator.entered.IsQuiet := quiet.of_same rfl rfl quiet.frames
  obtain ⟨_, begins, -⟩ := validator.entered.beginRoot_eq
  have begun : validator.entered.beginRoot.IsQuiet := by
    rw [begins]
    exact entered.of_same rfl rfl entered.frames
  obtain ⟨asks, -⟩ := validator.entered.beginRoot.loadHinted_asks name.raw attributes
  obtain ⟨_, _, loads⟩ := validator.entered.beginRoot.loadHinted_eq name.raw attributes
  have loaded := begun.asks asks (by rw [loads]; exact begun.frames)
  obtain ⟨_, decides, -⟩ := decideDynamic_eq
    (validator.entered.beginRoot.loadHinted name.raw attributes).1 name.space
  rw [Validator.prepared, decides]
  exact loaded.of_same rfl rfl loaded.frames

theorem IsQuiet.offer {validator : Validator} (quiet : validator.IsQuiet) (name : ExpandedName) :
    (validator.offer name).1.IsQuiet := by
  refine quiet.of_same (by rw [offer_eq]) (by rw [offer_eq]) ?_
  rw [offer_eq]
  intro frame member
  change frame ∈ validator.framesTaking validator.registry name at member
  unfold framesTaking at member
  cases frames : validator.frames with
  | nil =>
    rw [frames] at member
    cases member
  | cons parent outer =>
    rw [frames] at member
    obtain ⟨ofParent, ofOuter⟩ := List.forall_mem_cons.mp (frames ▸ quiet.frames)
    rcases List.mem_cons.mp member with rfl | outside
    · exact ofParent.takeChild validator.registry name
    · exact ofOuter frame outside

/-- An element that is opened has content without uses that speak for an instance. -/
theorem isQuiet_openedFrame (validator : Validator) (name : QualifiedName)
    (attributes : Attributes) (declaration : Option KnownElement) {type : KnownType}
    (quiet : AreQuiet type.definition.uses) :
    (validator.openedFrame name attributes declaration type).IsQuiet := by
  intro model some
  change ((contentModel? type.definition).map OpenContent.start).map OpenContent.model = _ at some
  rw [Option.map_map] at some
  obtain ⟨started, given, rfl⟩ := Option.map_eq_some_iff.mp some
  cases definition : type.definition with
  | simple simple =>
    rw [definition] at given
    cases given
  | complex complex =>
    rw [definition] at given quiet
    obtain ⟨group, contains, rfl⟩ := Option.map_eq_some_iff.mp given
    exact ⟨group, rfl, quiet.subset (ComplexType.uses_of_contentGroup contains)⟩

theorem IsQuiet.receive {validator : Validator} (quiet : validator.IsQuiet) (name : QualifiedName)
    (attributes : Attributes) : (validator.receive name attributes).1.IsQuiet := by
  have offered := quiet.offer name.expanded
  rcases validator.receive_governed name attributes with
    ⟨skipped, -⟩ | ⟨declaration, isStrict, type, assessed, governs⟩
  · have ofSkipped : Frame.IsQuiet { name } := fun model some => nomatch some
    rw [skipped]
    exact offered.of_same rfl rfl (List.forall_mem_cons.mpr ⟨ofSkipped, offered.frames⟩)
  · have ofType : AreQuiet type.definition.uses :=
      offered.type (fun found given => quiet.declaration (given ▸ assessed)) governs
    obtain ⟨⟨_, _, same⟩, -⟩ :=
      (validator.offer name.expanded).1.openTyped_shape name attributes declaration type
    rw [(validator.receive_of_governs assessed governs).1, same]
    exact offered.of_same rfl rfl (List.forall_mem_cons.mpr
      ⟨isQuiet_openedFrame _ name attributes declaration ofType, offered.frames⟩)

theorem IsQuiet.start {validator : Validator} (quiet : validator.IsQuiet) {name : QualifiedName}
    {attributes : Attributes} (passes : (validator.start name attributes).failure = none) :
    (validator.start name attributes).validator.IsQuiet := by
  rw [validator.start_of_passes name attributes passes]
  split
  · exact quiet.of_same rfl rfl quiet.frames
  · exact (quiet.prepared name attributes).receive name attributes

theorem IsQuiet.finish {validator : Validator} (quiet : validator.IsQuiet)
    (ending : QualifiedName) : (validator.finish ending).validator.IsQuiet := by
  obtain ⟨_, _, _, _, closed⟩ := validator.close_eq
  have leaves := validator.finish_leaves ending
  refine quiet.of_same ?_ ?_ ?_
  · show validator.close.1.leaveScope.registry = _
    rw [closed]
    rfl
  · show validator.close.1.leaveScope.source = _
    rw [closed]
    rfl
  · rw [leaves.frames]
    split
    · exact fun frame member => quiet.frames frame (List.mem_of_mem_tail member)
    · exact quiet.frames

/-- A validator that knows of no use that speaks for an instance does not come to know of one. -/
theorem IsQuiet.step {validator : Validator} (quiet : validator.IsQuiet) {event : Event}
    (passes : (validator.step event).failure = none) :
    (validator.step event).validator.IsQuiet := by
  cases event with
  | startDocument =>
    show validator.reset.IsQuiet
    exact quiet.of_same rfl rfl fun frame member => nomatch member
  | startPrefix prefixName uri =>
    have same : (validator.step (.startPrefix prefixName uri)).validator =
        { validator with pending := validator.pending ++ [(prefixName, uri)] } := rfl
    rw [same]
    exact quiet.of_same rfl rfl quiet.frames
  | startElement name attributes => exact quiet.start passes
  | endElement ending => exact quiet.finish ending
  | characters text =>
    show (validator.addText text).IsQuiet
    unfold addText
    split
    · rename_i frame outer _ frames
      obtain ⟨ofFrame, ofOuter⟩ := List.forall_mem_cons.mp (frames ▸ quiet.frames)
      exact quiet.of_same rfl rfl
        (List.forall_mem_cons.mpr ⟨ofFrame.of_model rfl, ofOuter⟩)
    · exact quiet
  | endDocument =>
    show validator.release.IsQuiet
    exact quiet.of_same rfl rfl quiet.frames
  | _ => exact quiet

end Validator

end SchemaAssessment

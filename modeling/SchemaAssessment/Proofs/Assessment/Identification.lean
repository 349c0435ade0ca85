/-
Identifiers over a whole document. Values come in at start tags, from attributes, and at
end tags, from content; some of them declare identifiers, and some refer to them. What a
validator knows of identifiers is at all times a matter of the values that came in so
far: which identifiers they declare, and to which they refer, in the order in which they
came first. So a declaration is told as a duplicate if and only if the same identifier was
declared before, and at the end of the root element those references are told, once each,
that no declaration answers, wherever it stands in the document.
-/

import SchemaAssessment.Proofs.Assessment.Containment
import SchemaAssessment.Proofs.Assessment.Values
import SchemaAssessment.Proofs.Sequences

namespace SchemaAssessment

/-! ### Identifiers that are known -/

/-- The texts that values of a kind consist of, in order. -/
def identifiersOf (kind : IdKind) (values : List TypedAttribute) : List String :=
  values.flatMap fun typed => if typed.idKind = kind then typed.value.itemTexts else []

theorem identifiersOf_append (kind : IdKind) (first second : List TypedAttribute) :
    identifiersOf kind (first ++ second) = identifiersOf kind first ++ identifiersOf kind second :=
  List.flatMap_append

/-- The number of findings under a rule with some arguments. -/
def timesTold (rule : Rule) (arguments : List String) (diagnostics : List Diagnostic) : Nat :=
  ((underRule rule diagnostics).map Diagnostic.arguments).count arguments

theorem timesTold_append (rule : Rule) (arguments : List String) (first second : List Diagnostic) :
    timesTold rule arguments (first ++ second) =
      timesTold rule arguments first + timesTold rule arguments second := by
  simp [timesTold, underRule_append]

theorem timesTold_duplicate (identifier element other : String) (found : List Diagnostic) :
    timesTold .duplicateId [identifier] (⟨.duplicateId, element, [other]⟩ :: found) =
      timesTold .duplicateId [identifier] found + if other = identifier then 1 else 0 := by
  simp [timesTold, underRule, List.count_cons]

/-- What is declared once more counts beyond the first time if it was declared before. -/
theorem count_concat_sub_one (declared : List String) (first identifier : String) :
    (declared ++ [first]).count identifier - 1 = declared.count identifier - 1 +
      if first ∈ declared ∧ first = identifier then 1 else 0 := by
  by_cases same : first = identifier
  · subst same
    by_cases known : first ∈ declared
    · have before : 0 < declared.count first := List.count_pos_iff.mpr known
      simp only [List.count_append, List.count_singleton_self, known, and_self, if_true]
      omega
    · simp [known, List.count_eq_zero.mpr known]
  · simp [same]

namespace Identifiers

/-- What is known of identifiers when some were declared and referred to, in this order. -/
structure Holds (identifiers : Identifiers) (declared referred : List String) : Prop where
  declared : ∀ identifier, identifiers.isDeclared identifier = declared.contains identifier
  referred : identifiers.referred = referred.eraseDups

theorem holds_none : Identifiers.none.Holds [] [] := ⟨fun _ => rfl, rfl⟩

section Holds

variable {identifiers : Identifiers} {declared referred : List String}

theorem Holds.declare (holds : identifiers.Holds declared referred) (identifier : String) :
    (identifiers.declare identifier).Holds (declared ++ [identifier]) referred := by
  constructor
  · intro other
    rw [isDeclared_declare, holds.declared, Bool.eq_iff_iff]
    simp [or_comm]
  · rw [← holds.referred]
    unfold Identifiers.declare
    split <;> rfl

theorem Holds.refer (holds : identifiers.Holds declared referred) (identifier : String) :
    (identifiers.refer identifier).Holds declared (referred ++ [identifier]) := by
  unfold Identifiers.refer
  rw [holds.referred]
  by_cases known : identifier ∈ referred
  · simp only [List.contains_iff_mem, List.mem_eraseDups, known, if_true]
    exact ⟨holds.declared, by simp [holds.referred, eraseDups_concat, known]⟩
  · simp only [List.contains_iff_mem, List.mem_eraseDups, known, if_false]
    exact ⟨holds.declared, by simp [eraseDups_concat, known]⟩

theorem Holds.referAll (holds : identifiers.Holds declared referred) (others : List String) :
    (others.foldl Identifiers.refer identifiers).Holds declared (referred ++ others) := by
  induction others generalizing identifiers referred with
  | nil => rwa [List.append_nil]
  | cons identifier rest ofRest =>
    rw [List.append_cons]
    exact ofRest (holds.refer identifier)

theorem Holds.unresolved_eq (holds : identifiers.Holds declared referred) :
    identifiers.unresolved = referred.eraseDups.filter fun identifier =>
      !declared.contains identifier := by
  rw [unresolved, holds.referred]
  exact List.filter_congr fun identifier _ => by rw [holds.declared]

end Holds

/-! ### Identifiers that come in -/

/-- Some values come in while some things are found: they are known behind, and each identifier that
they declare is told as a duplicate as often as it has been declared before. -/
structure Takes (before after : Identifiers) (found : List Diagnostic)
    (values : List TypedAttribute) : Prop where
  holds : ∀ {declared referred}, before.Holds declared referred →
    after.Holds (declared ++ identifiersOf .declares values)
      (referred ++ identifiersOf .refers values)
  told : ∀ {declared referred}, before.Holds declared referred → ∀ identifier,
    timesTold .duplicateId [identifier] found + (declared.count identifier - 1) =
      (declared ++ identifiersOf .declares values).count identifier - 1

/-- Nothing comes in where findings are under other rules. -/
theorem takes_nothing (identifiers : Identifiers) {rules : List Rule} {found : List Diagnostic}
    (under : Under rules found) (apart : .duplicateId ∉ rules) :
    Takes identifiers identifiers found [] := by
  constructor
  · intro declared referred holds
    simpa [identifiersOf] using holds
  · intro declared referred holds identifier
    simp [timesTold, under.underRule_eq_nil apart, identifiersOf]

theorem Takes.refl (identifiers : Identifiers) : Takes identifiers identifiers [] [] :=
  takes_nothing identifiers (.nil []) List.not_mem_nil

theorem Takes.trans {first middle last : Identifiers} {found more : List Diagnostic}
    {values others : List TypedAttribute} (earlier : Takes first middle found values)
    (later : Takes middle last more others) :
    Takes first last (found ++ more) (values ++ others) := by
  constructor
  · intro declared referred holds
    rw [identifiersOf_append, identifiersOf_append, ← List.append_assoc, ← List.append_assoc]
    exact later.holds (earlier.holds holds)
  · intro declared referred holds identifier
    have before := earlier.told holds identifier
    have behind := later.told (earlier.holds holds) identifier
    rw [timesTold_append, identifiersOf_append, ← List.append_assoc]
    omega

/-- The first of the identifiers that are declared is told if it was declared before. -/
theorem timesTold_declareAll (identifiers : Identifiers) (element first : String)
    (rest : List String) (identifier : String) :
    timesTold .duplicateId [identifier] (identifiers.declareAll element (first :: rest)).2 =
      timesTold .duplicateId [identifier]
          ((identifiers.declare first).declareAll element rest).2 +
        if identifiers.isDeclared first = true ∧ first = identifier then 1 else 0 := by
  rw [declareAll]
  by_cases known : identifiers.isDeclared first = true
  · simp [known, timesTold_duplicate]
  · simp [known]

/-- Identifiers that are declared one after the other. -/
theorem declareAll_takes (identifiers : Identifiers) (element : String) (others : List String)
    {declared referred : List String} (holds : identifiers.Holds declared referred) :
    (identifiers.declareAll element others).1.Holds (declared ++ others) referred ∧
      ∀ identifier,
        timesTold .duplicateId [identifier] (identifiers.declareAll element others).2 +
            (declared.count identifier - 1) = (declared ++ others).count identifier - 1 := by
  induction others generalizing identifiers declared with
  | nil => simpa [declareAll, timesTold, underRule] using holds
  | cons first rest ofRest =>
    obtain ⟨behind, told⟩ := ofRest (identifiers.declare first) (holds.declare first)
    rw [List.append_cons]
    constructor
    · rw [declareAll]
      dsimp only
      split <;> exact behind
    · intro identifier
      have toldRest := told identifier
      rw [count_concat_sub_one] at toldRest
      simp only [timesTold_declareAll, holds.declared, List.contains_iff_mem]
      omega

theorem take_takes (identifiers : Identifiers) (element : String) (typed : TypedAttribute) :
    Takes identifiers (identifiers.take element typed.value typed.idKind).1
      (identifiers.take element typed.value typed.idKind).2 [typed] := by
  obtain ⟨value, kind⟩ := typed
  cases kind with
  | none =>
    constructor
    · intro declared referred holds
      simpa [identifiersOf, take] using holds
    · intro declared referred holds identifier
      simp [identifiersOf, take, timesTold, underRule]
  | declares =>
    constructor
    · intro declared referred holds
      simpa [identifiersOf, take] using
        (identifiers.declareAll_takes element value.itemTexts holds).1
    · intro declared referred holds
      simpa [identifiersOf, take] using
        (identifiers.declareAll_takes element value.itemTexts holds).2
  | refers =>
    constructor
    · intro declared referred holds
      simpa [identifiersOf, take] using holds.referAll value.itemTexts
    · intro declared referred holds identifier
      simp [identifiersOf, take, timesTold, underRule]

end Identifiers

namespace Validator

open Identifiers (Takes takes_nothing)

/-! ### Values that come in -/

theorem takeIdentifiers_takes (identifiers : Identifiers) (element : String)
    (typed : List (Option TypedAttribute)) :
    Takes identifiers (takeIdentifiers identifiers element typed).1
      (takeIdentifiers identifiers element typed).2 typed.reduceOption := by
  induction typed generalizing identifiers with
  | nil => exact .refl identifiers
  | cons first rest ofRest =>
    cases first with
    | none => exact ofRest identifiers
    | some first => exact (identifiers.take_takes element first).trans (ofRest _)

/-- Opening an element under a type takes in the values of its attributes. -/
theorem openTyped_takes {validator : Validator} (validates : validator.isValidating = true)
    (name : QualifiedName) (attributes : Attributes) (declaration : Option KnownElement)
    (type : KnownType) :
    let context : AttributeContext := ⟨validator.registry, validator.scopes, name.raw⟩
    let opened := validator.openTyped name attributes declaration type
    Takes validator.identifiers opened.1.identifiers opened.2.2
      ((attributesOf type.definition).elim [] fun group =>
        (group.supply attributes).filterMap (context.typed? group)) := by
  intro context opened
  let assessed := context.assess validator.isValidating (attributesOf type.definition) attributes
  let taken := takeIdentifiers validator.identifiers name.raw assessed.2.1
  let ready : Validator := { validator with
    identifiers := taken.1
    frames := validator.openedFrame name attributes declaration type :: validator.frames }
  obtain ⟨⟨identities, behind⟩, ofIdentities⟩ :=
    ready.startIdentities_shape (validator.typedStart name attributes declaration type)
  have known : opened.1.identifiers = taken.1 := congrArg Validator.identifiers behind
  rw [known]
  have ofType := takes_nothing validator.identifiers (abstractType_under name.raw type) (by decide)
  have ofClaim := takes_nothing validator.identifiers
    (validator.claimNil_under name.raw declaration attributes) (by decide)
  have ofAttributes := takes_nothing validator.identifiers (context.assess_under
    validator.isValidating (attributesOf type.definition) attributes) (by decide)
  have ofValues := takeIdentifiers_takes validator.identifiers name.raw assessed.2.1
  have ofRest := takes_nothing taken.1 ofIdentities (by decide)
  have all := (((ofType.trans ofClaim).trans ofAttributes).trans ofValues).trans ofRest
  have typed : assessed.2.1.reduceOption = _ :=
    validates ▸ context.assess_typed (attributesOf type.definition) attributes
  rw [List.append_nil, List.nil_append, typed] at all
  exact all

/-- Receiving an element takes in the values of its attributes. -/
theorem receive_takes {validator : Validator} (validates : validator.isValidating = true)
    (name : QualifiedName) (attributes : Attributes) :
    let received := validator.receive name attributes
    Takes validator.identifiers received.1.identifiers received.2.2
      (validator.typedAttributes name attributes) := by
  have keeps : (validator.offer name.expanded).1.identifiers = validator.identifiers := by
    rw [offer_eq]
  have telling := (validator.offer_isValidating name.expanded).trans validates
  unfold typedAttributes
  dsimp only
  rw [← keeps]
  let offered := (validator.offer name.expanded).1
  have rejected := takes_nothing offered.identifiers
    (rejection_under name.raw (validator.offer name.expanded).2) (by decide)
  have governing (declaration : Option KnownElement) :=
    (takes_nothing offered.identifiers (abstractDeclaration_under name.raw declaration)
      (by decide)).trans (takes_nothing offered.identifiers
        (offered.governingType_under name.raw declaration attributes) (by decide))
  rcases validator.receive_ways name attributes with ⟨aside, same⟩ |
    ⟨declaration, isStrict, assessed, ⟨untyped, same⟩ | ⟨type, governs, same⟩⟩
  · rw [same, aside]
    exact rejected
  · rw [same, assessed]
    dsimp only
    rw [untyped]
    exact (rejected.trans (governing declaration)).trans (takes_nothing offered.identifiers
      (offered.undeclared_under name.raw isStrict) (by decide))
  · rw [same, assessed]
    dsimp only
    rw [governs]
    exact (rejected.trans (governing declaration)).trans
      (openTyped_takes telling name attributes declaration type)

/-- A start tag takes in the values of its attributes, if findings are told behind it, and settles no
references. -/
theorem start_takes {validator : Validator} {name : QualifiedName} {attributes : Attributes}
    (passes : (validator.start name attributes).failure = none)
    (validates : (validator.start name attributes).validator.isValidating = true) :
    let outcome := validator.start name attributes
    Takes validator.identifiers outcome.validator.identifiers outcome.diagnostics
        (validator.valuesAt (.startElement name attributes)) ∧
      underRule .unresolvedIdref outcome.diagnostics = [] := by
  intro outcome
  rcases validator.start_cases name attributes with
    ⟨failed, -⟩ | ⟨skipping, passed, -⟩ | ⟨outside, -, behind, ⟨hints, ofHints, found⟩, -⟩
  · exact absurd passes failed
  · unfold outcome
    rw [passed, valuesAt_of_isSkipping skipping]
    exact ⟨.refl _, rfl⟩
  · have telling := ((validator.prepared name attributes).receive_admits name attributes).1
    obtain ⟨-, -, -, isValidating, -⟩ := telling
    obtain ⟨⟨further, opening, same⟩, -⟩ :=
      (validator.prepared name attributes).receive_shape name attributes
    rw [behind, isValidating] at validates
    have received := receive_takes validates name attributes
    rw [prepared_identifiers] at received
    unfold outcome
    rw [behind, found, validates, valuesAt, outside, if_neg Bool.false_ne_true]
    refine ⟨(takes_nothing _ ofHints (by decide)).trans received, ?_⟩
    rw [told, if_pos rfl, same, underRule_append, underRule_append,
      ofHints.underRule_eq_nil (by decide), opening.underRule_eq_nil (by decide),
      (rejection_under ..).underRule_eq_nil (by decide)]
    rfl

/-- Closing an element takes in its value, and settles references if no other element is open. -/
theorem closeElement_takes (validator : Validator) (frame : Frame) (outer : List Frame) :
    let closed := validator.closeElement frame outer
    Takes validator.identifiers closed.1.identifiers closed.2.2
        (validator.typedContent? frame).toList ∧
      underRule .unresolvedIdref closed.2.2 = closed.1.checkReferences frame.raw := by
  intro closed
  let content := validator.assessContent frame
  let taken := validator.finishIdentifiers frame.raw content.1.typed
  let read := taken.1.finishIdentities (identityValue frame content.1) frame.raw
  let last : Validator := { read.1 with frames := outer }
  have same : closed = (last, content.1.supplied,
      content.2 ++ taken.2 ++ read.2 ++ last.checkReferences frame.raw) := rfl
  obtain ⟨⟨identities, ofRead⟩, reported⟩ :=
    taken.1.finishIdentities_shape (identityValue frame content.1) frame.raw
  have ofContent := validator.assessContent_under frame
  have known : last.identifiers = taken.1.identifiers :=
    (congrArg Validator.identifiers ofRead).trans rfl
  have settled := last.checkReferences_under frame.raw
  have noted : Takes validator.identifiers taken.1.identifiers taken.2 content.1.typed.toList ∧
      Under [.duplicateId] taken.2 := by
    unfold taken
    cases content.1.typed with
    | none => exact ⟨.refl _, .nil _⟩
    | some typed =>
      exact ⟨validator.identifiers.take_takes frame.raw typed, validator.identifiers.take_under ..⟩
  rw [same, ← assessContent_typed]
  dsimp only
  rw [known]
  constructor
  · have all := (((takes_nothing _ ofContent (by decide)).trans noted.1).trans
      (takes_nothing _ reported (by decide))).trans (takes_nothing _ settled (by decide))
    rw [List.append_nil, List.append_nil] at all
    exact all
  · rw [underRule_append, underRule_append, underRule_append, settled.underRule_eq_self,
      ofContent.underRule_eq_nil (by decide), noted.2.underRule_eq_nil (by decide),
      reported.underRule_eq_nil (by decide)]
    rfl

/-- An end tag takes in the value of the innermost element, if findings are told, and settles the
references if it closes the outermost one. -/
theorem finish_takes {validator : Validator} (validates : validator.isValidating = true)
    (ending : QualifiedName) :
    let outcome := validator.finish ending
    Takes validator.identifiers outcome.validator.identifiers outcome.diagnostics
        (validator.valuesAt (.endElement ending)) ∧
      underRule .unresolvedIdref outcome.diagnostics =
        match validator.skipDepth, validator.frames with
        | none, [frame] => outcome.validator.identifiers.unresolved.map fun identifier =>
          ⟨.unresolvedIdref, frame.raw, [identifier]⟩
        | _, _ => [] := by
  intro outcome
  rcases (validator.finish_cases ending).2 with
    ⟨depth, inside, behind, nothing, -⟩ | ⟨outside, none, behind, nothing, -⟩ |
      ⟨frame, outer, -, -, -, outside, frames, -⟩
  · have known : outcome.validator.identifiers = validator.identifiers := by
      unfold outcome
      rw [behind]
      unfold leaveSkip
      split <;> rfl
    unfold outcome at known ⊢
    rw [known, nothing, valuesAt_of_isSkipping (Option.isSome_of_eq_some inside), inside]
    exact ⟨.refl _, rfl⟩
  · unfold outcome
    rw [behind, nothing, valuesAt_endElement outside, outside, none]
    exact ⟨.refl _, rfl⟩
  · have closed : validator.close = validator.closeElement frame outer := by
      rw [close, outside, frames]
    have known : outcome.validator.identifiers =
        (validator.closeElement frame outer).1.identifiers :=
      congrArg (fun closed => closed.1.identifiers) closed
    have found : outcome.diagnostics = (validator.closeElement frame outer).2.2 := by
      show told validator.isValidating validator.close.2.2 = _
      rw [closed, told, validates, if_pos rfl]
    obtain ⟨⟨identifiers, identities, same⟩, -⟩ := validator.closeElement_shape frame outer
    obtain ⟨takes, settles⟩ := validator.closeElement_takes frame outer
    rw [known, found, valuesAt_endElement outside, outside, frames]
    refine ⟨takes, settles.trans ?_⟩
    rw [checkReferences, same]
    cases outer with
    | nil => rfl
    | cons next others => rfl

/-! ### Values along a run -/

/-- Values come in at an event, or at several, and no references are settled there. -/
structure TakesIn (outcome : Outcome) (before : Validator) (values : List TypedAttribute) :
    Prop where
  takes : Takes before.identifiers outcome.validator.identifiers outcome.diagnostics values
  unsettled : underRule .unresolvedIdref outcome.diagnostics = []

theorem takesIn_nothing (validator : Validator) : TakesIn (validator.run []) validator [] :=
  ⟨.refl _, rfl⟩

theorem TakesIn.cons {validator : Validator} {event : Event} {rest : List Event}
    {values others : List TypedAttribute} (passes : (validator.step event).failure = none)
    (first : TakesIn (validator.step event) validator values)
    (later : TakesIn ((validator.step event).validator.run rest) (validator.step event).validator
      others) : TakesIn (validator.run (event :: rest)) validator (values ++ others) := by
  rw [run_cons_of_passes passes]
  refine ⟨first.takes.trans later.takes, ?_⟩
  rw [underRule_append, first.unsettled, later.unsettled]
  rfl

/-- No value comes in between tags. -/
theorem step_flat_takes_in (validator : Validator) {event : Event} (isFlat : event.isFlat = true)
    (goesOn : event ≠ .endDocument) :
    TakesIn (validator.step event) validator (validator.valuesAt event) ∧
      (validator.step event).validator.identifiers = validator.identifiers ∧
        (validator.step event).validator.isValidating = validator.isValidating := by
  have nothing := Takes.refl validator.identifiers
  cases event with
  | startDocument => cases isFlat
  | startElement name attributes => cases isFlat
  | endElement ending => cases isFlat
  | endDocument => exact absurd rfl goesOn
  | characters text =>
    have known : (validator.addText text).identifiers = validator.identifiers ∧
        (validator.addText text).isValidating = validator.isValidating := by
      unfold addText
      split <;> exact ⟨rfl, rfl⟩
    refine ⟨⟨?_, rfl⟩, known⟩
    show Takes _ (validator.addText text).identifiers _ _
    rw [known.1]
    exact nothing
  | _ => exact ⟨⟨nothing, rfl⟩, rfl, rfl⟩

/-- Inside of the root element an event takes in its values, and settles no references. -/
theorem step_takes_in {validator : Validator} {event : Event} {count behind : Nat}
    (aligned : validator.IsAligned) (depth : validator.depth = 1 + count)
    (validates : validator.isValidating = true) (counted : openBehind? count [event] = some behind)
    (goesOn : event ≠ .endDocument) (passes : (validator.step event).failure = none) :
    TakesIn (validator.step event) validator (validator.valuesAt event) ∧
      (validator.step event).validator.isValidating = true := by
  by_cases isFlat : event.isFlat = true
  · obtain ⟨takes, -, telling⟩ := validator.step_flat_takes_in isFlat goesOn
    exact ⟨takes, telling.trans validates⟩
  · cases event with
    | startDocument => cases counted
    | startElement name attributes =>
      have telling : (validator.start name attributes).validator.isValidating = true := by
        cases skipping : validator.isSkipping with
        | true => exact (start_passesInto passes skipping).1.isValidating.trans validates
        | false =>
          have length := aligned.outside (skipDepth_of_isSkipping skipping)
          refine ((start_receives passes skipping).admits.isValidating ?_).trans validates
          exact List.ne_nil_of_length_pos (by omega)
      obtain ⟨takes, unsettled⟩ := start_takes passes telling
      exact ⟨⟨takes, unsettled⟩, telling⟩
    | endElement ending =>
      by_cases noneOpen : count = 0
      · rw [openBehind?, if_pos noneOpen] at counted
        cases counted
      · -- more than one element is open, so that this is not the end of the root element
        obtain ⟨takes, settles⟩ := finish_takes validates ending
        refine ⟨⟨takes, settles.trans ?_⟩,
          (validator.finish_leaves ending).isValidating.trans validates⟩
        split
        · rename_i frame outside frames
          have length := aligned.outside outside
          rw [frames, List.length_singleton] at length
          omega
        · rfl
    | _ => exact absurd rfl isFlat

theorem run_takes_in {validator : Validator} {events : List Event} {count behind : Nat}
    (aligned : validator.IsAligned) (depth : validator.depth = 1 + count)
    (validates : validator.isValidating = true) (counted : openBehind? count events = some behind)
    (goesOn : .endDocument ∉ events) (runs : (validator.run events).failure = none) :
    TakesIn (validator.run events) validator (validator.valuesAlong events) ∧
      (validator.run events).validator.isValidating = true := by
  induction events generalizing validator count with
  | nil => exact ⟨validator.takesIn_nothing, validates⟩
  | cons event rest ofRest =>
    obtain ⟨passes, further, same⟩ := run_cons_of_runs runs
    rw [List.mem_cons, not_or] at goesOn
    rw [← List.singleton_append, openBehind?_append] at counted
    obtain ⟨between, countedFirst, countedRest⟩ := Option.bind_eq_some_iff.mp counted
    obtain ⟨first, telling⟩ :=
      step_takes_in aligned depth validates countedFirst (Ne.symm goesOn.1) passes
    obtain ⟨others, tellingBehind⟩ := ofRest (aligned.step passes)
      (step_depth depth countedFirst passes) telling countedRest goesOn.2 further
    exact ⟨.cons passes first others, same ▸ tellingBehind⟩

/-! ### Whole documents -/

section Document

variable {validator : Validator} {prolog inside : List Event} {name : QualifiedName}
  {attributes : Attributes}

/-- No element is opened between tags. -/
theorem IsIdle.step_flat (idle : validator.IsIdle) {event : Event}
    (isFlat : event.isFlat = true) : (validator.step event).validator.IsIdle := by
  have resumes := (validator.step_flat isFlat).1
  refine ⟨?_, resumes.depth.trans idle.depth, resumes.skipDepth.trans idle.skipDepth⟩
  rw [resumes.frames, framesHolding, idle.frames, List.modifyHead_nil, ite_self]

/-- Behind all that is inside of the root element, that one is the only open element; or its subtree
was passed through, and no identifier has come in. -/
theorem IsIdle.root_open (idle : validator.IsIdle) (balanced : IsBalanced inside)
    (goesOn : .endDocument ∉ inside)
    (runs : (validator.run (.startElement name attributes :: inside)).failure = none) :
    let behind := (validator.run (.startElement name attributes :: inside)).validator
    (behind.isSkipping = true ∧ behind.identifiers = validator.identifiers) ∨
      ∃ frame, behind.skipDepth = none ∧ behind.frames = [frame] ∧ frame.raw = name.raw := by
  obtain ⟨passes, further, same⟩ := run_cons_of_runs runs
  have outside : validator.isSkipping = false := congrArg Option.isSome idle.skipDepth
  rw [same]
  intro behind
  cases skips : (validator.start name attributes).validator.isSkipping with
  | true =>
    obtain ⟨-, -, -, untouched, -⟩ :=
      run_skipped validator name name attributes inside outside passes skips balanced goesOn further
    obtain ⟨-, -, -, keeps⟩ := start_skips passes outside skips
    exact .inl ⟨(congrArg Option.isSome untouched.skipDepth).trans skips,
      untouched.identifiers.trans keeps⟩
  | false =>
    obtain ⟨stretch, rfl⟩ := (isBalanced_iff_exists_stretch inside).mp balanced
    obtain ⟨frame, -, named, frames⟩ := (start_receives passes outside).admits.frames
    rw [framesTaking, idle.frames, List.modifyHead_nil] at frames
    have resumes := run_stretch (idle.aligned.start passes).settled further
    obtain ⟨content, hasText, filled⟩ := frame.fill_eq
      ((validator.start name attributes).validator.children stretch) stretch.text
    refine .inr ⟨_, resumes.skipDepth.trans (skipDepth_of_isSkipping skips),
      resumes.frames_of_open skips frames, ?_⟩
    rw [filled, ← named]
    rfl

/-- Along a document, up to the end tag of the root element, all values come in, and no references
are settled. -/
theorem IsIdle.document_takes_in (idle : validator.IsIdle)
    (flat : ∀ event ∈ prolog, event.isFlat = true) (balanced : IsBalanced inside)
    (goesOn : .endDocument ∉ prolog ++ inside)
    (validates : (validator.run
      (prolog ++ [.startElement name attributes])).validator.isValidating = true)
    (runs : (validator.run (prolog ++ .startElement name attributes :: inside)).failure = none) :
    let document := prolog ++ .startElement name attributes :: inside
    let behind := (validator.run document).validator
    TakesIn (validator.run document) validator (validator.valuesAlong document) ∧
      behind.isValidating = true ∧
      ((behind.isSkipping = true ∧ behind.identifiers = validator.identifiers) ∨
        ∃ frame, behind.skipDepth = none ∧ behind.frames = [frame] ∧ frame.raw = name.raw) := by
  intro document behind
  induction prolog generalizing validator with
  | nil =>
    obtain ⟨passes, further, same⟩ := run_cons_of_runs runs
    have telling : (validator.start name attributes).validator.isValidating = true := by
      rw [List.nil_append, run_cons_of_passes passes] at validates
      exact validates
    have depth := step_depth (idle.depth : validator.depth = 0 + 0)
      (rfl : openBehind? 0 [.startElement name attributes] = some 1) passes
    rw [Nat.add_comm] at depth
    obtain ⟨takes, unsettled⟩ := start_takes passes telling
    obtain ⟨others, last⟩ := run_takes_in (idle.aligned.start passes) depth telling balanced goesOn
      further
    exact ⟨.cons passes ⟨takes, unsettled⟩ others, (congrArg isValidating same).trans last,
      idle.root_open balanced goesOn runs⟩
  | cons event rest ofRest =>
    obtain ⟨passes, further, same⟩ := run_cons_of_runs runs
    rw [List.cons_append, List.mem_cons, not_or] at goesOn
    rw [List.cons_append, run_cons_of_passes passes] at validates
    have isFlat := flat event List.mem_cons_self
    obtain ⟨first, kept, -⟩ := validator.step_flat_takes_in isFlat (Ne.symm goesOn.1)
    obtain ⟨others, last, root⟩ := ofRest (idle.step_flat isFlat)
      (fun other member => flat other (.tail _ member)) goesOn.2 validates further
    have whole : behind = ((validator.step event).validator.run
        (rest ++ .startElement name attributes :: inside)).validator := same
    rw [whole, ← kept]
    exact ⟨.cons passes first others, last, root⟩

/-- At the end tag of the root element the references are told that no declaration answers. -/
theorem IsIdle.document_settles (idle : validator.IsIdle)
    (nothing : validator.identifiers = .none) (flat : ∀ event ∈ prolog, event.isFlat = true)
    (balanced : IsBalanced inside) (goesOn : .endDocument ∉ prolog ++ inside)
    (validates : (validator.run
      (prolog ++ [.startElement name attributes])).validator.isValidating = true)
    (runs : (validator.run (prolog ++ .startElement name attributes :: inside)).failure = none)
    (ending : QualifiedName) :
    let inRoot := validator.run (prolog ++ .startElement name attributes :: inside)
    let ended := inRoot.validator.finish ending
    let values := validator.valuesAlong (prolog ++ .startElement name attributes :: inside) ++
      inRoot.validator.valuesAt (.endElement ending)
    let declared := identifiersOf .declares values
    Takes .none ended.validator.identifiers (inRoot.diagnostics ++ ended.diagnostics) values ∧
      underRule .unresolvedIdref inRoot.diagnostics = [] ∧
      underRule .unresolvedIdref ended.diagnostics =
        ((identifiersOf .refers values).eraseDups.filter fun identifier =>
          !declared.contains identifier).map
            fun identifier => ⟨.unresolvedIdref, name.raw, [identifier]⟩ := by
  intro inRoot ended values declared
  obtain ⟨⟨before, unsettled⟩, telling, root⟩ :=
    idle.document_takes_in flat balanced goesOn validates runs
  rw [nothing] at before root
  obtain ⟨last, settles⟩ := finish_takes telling ending
  have all := before.trans last
  refine ⟨all, unsettled, settles.trans ?_⟩
  rcases root with ⟨skipping, still⟩ | ⟨frame, outside, frames, named⟩
  · -- nothing came in, so that there is nothing to be answered
    obtain ⟨depth, marked⟩ := Option.isSome_iff_exists.mp skipping
    have known := (before.holds Identifiers.holds_none).unresolved_eq
    have same : values =
        validator.valuesAlong (prolog ++ .startElement name attributes :: inside) := by
      unfold values
      rw [valuesAt_of_isSkipping skipping, List.append_nil]
    rw [still] at known
    rw [marked]
    unfold declared
    rw [same]
    exact congrArg (List.map _) known
  · have known := (all.holds Identifiers.holds_none).unresolved_eq
    rw [outside, frames]
    dsimp only
    rw [known, named]
    rfl

end Document

/-- In a run through a document, from its beginning to the end tag of the root element, let the
values be those of attributes and of content that come in, in the order in which they do. Each
identifier is told as a duplicate just as often as they declare it beyond the first time. No
reference is told before the end tag of the root element; and there, those identifiers are told,
once each, to which the values refer and which none of them declares, before or behind, in the
order in which they are first referred to. -/
theorem run_identifies (validator : Validator) (prolog inside : List Event)
    (name ending : QualifiedName) (attributes : Attributes)
    (flat : ∀ event ∈ prolog, event.isFlat = true) (balanced : IsBalanced inside)
    (goesOn : .endDocument ∉ prolog ++ inside)
    (validates : (validator.run
      (.startDocument :: (prolog ++ [.startElement name attributes]))).validator.isValidating =
        true)
    (runs : (validator.run
      (.startDocument :: (prolog ++ .startElement name attributes :: inside))).failure = none) :
    let inRoot : List Event := .startDocument :: (prolog ++ .startElement name attributes :: inside)
    let document := inRoot ++ [.endElement ending]
    let values := validator.valuesAlong document
    let declared := identifiersOf .declares values
    let referred := identifiersOf .refers values
    (∀ identifier, timesTold .duplicateId [identifier] (validator.run document).diagnostics =
        declared.count identifier - 1) ∧
      underRule .unresolvedIdref (validator.run inRoot).diagnostics = [] ∧
      underRule .unresolvedIdref
          ((validator.run inRoot).validator.step (.endElement ending)).diagnostics =
        (referred.eraseDups.filter fun identifier => !declared.contains identifier).map
          fun identifier => ⟨.unresolvedIdref, name.raw, [identifier]⟩ := by
  intro inRoot document values declared referred
  have begins : (validator.step .startDocument).failure = none := rfl
  obtain ⟨-, further, -⟩ := run_cons_of_runs runs
  rw [run_cons_of_passes begins] at validates
  have idle : validator.reset.IsIdle := isIdle_initial ..
  obtain ⟨takes, unsettled, settles⟩ :=
    idle.document_settles rfl flat balanced goesOn validates further ending
  have before : validator.run inRoot = _ := run_cons_of_passes begins _
  have valued : values = validator.reset.valuesAlong
      (prolog ++ .startElement name attributes :: inside) ++
        (validator.run inRoot).validator.valuesAt (.endElement ending) := by
    unfold values document
    rw [valuesAlong_append runs]
    exact congrArg (_ ++ ·) (List.append_nil _)
  have told : (validator.run document).diagnostics = (validator.run inRoot).diagnostics ++
      ((validator.run inRoot).validator.finish ending).diagnostics := by
    rw [validator.run_append inRoot _ runs]
    exact congrArg (_ ++ ·) (List.append_nil _)
  refine ⟨fun identifier => ?_, ?_, ?_⟩
  · have counted := takes.told Identifiers.holds_none identifier
    rw [List.nil_append, List.count_nil, Nat.zero_sub, Nat.add_zero] at counted
    unfold declared
    rw [told, valued, before]
    exact counted
  · rw [before]
    exact unsettled
  · unfold declared referred
    rw [valued, before]
    exact settles

/-- A declaration of a part of a book, which may have an identifier and refer to others, and which
refers to the index if it does not tell. -/
def bookPart (localName : String) : ElementDeclaration :=
  let id : AttributeDeclaration TypeReference :=
    { name := .unqualified "id", type := some (.simple (.ofDatatype .id)) }
  let see : AttributeDeclaration TypeReference :=
    ⟨.unqualified "see", some (.simple (.ofBuiltinList "IDREFS" .idRef)), some (.default "index")⟩
  { ElementDeclaration.ofName (.unqualified localName) with
    type := some (.complex { ComplexType.ofContent none .empty none with
      attributes := { uses := [{ declaration := id }, { declaration := see }] } }) }

/-- A validator that knows of books. The name of a book is an identifier. -/
def ofBooks : Validator :=
  let parts := ["preface", "chapter", "appendix"]
  let name : ElementDeclaration :=
    { ElementDeclaration.ofName (.unqualified "name") with
      type := some (.simple (.ofDatatype .id)) }
  let declarations := holding "book" [] ("name" :: parts) :: name :: parts.map bookPart
  .initial (.put .nothing (declarations.foldl Grammar.addElement (.empty none))) none {}

/-- A part of a book. -/
def partEvents (localName : String) (attributes : Attributes) : List Event :=
  [.startElement (plain localName) attributes, .endElement (plain localName)]

/-- In a book, a preface that refers to the index and to what is lost; a chapter that is the first;
another one inside of a draft, which is passed through; an appendix that would be the first too;
and the name of the book, which is that of the index. -/
def insideBook : List Event :=
  partEvents "preface" [.specified (plain "see") "index lost"] ++
    partEvents "chapter" [.specified (plain "id") "first"] ++
    (.startElement (plain "draft") [] ::
      partEvents "chapter" [.specified (plain "id") "first"] ++ [.endElement (plain "draft")]) ++
    partEvents "appendix" [.specified (plain "id") "first"] ++
    [.startElement (plain "name") [], .characters "index", .endElement (plain "name")]

/-- The first chapter is told once as a duplicate; and the index, which is declared behind the
references to it, is found, but not what is lost. -/
theorem run_identifies_book :
    let inRoot : List Event :=
      .startDocument :: ([.comment "draft"] ++ .startElement (plain "book") [] :: insideBook)
    let document := inRoot ++ [.endElement (plain "book")]
    let values := ofBooks.valuesAlong document
    identifiersOf .declares values = ["first", "first", "index"] ∧
      identifiersOf .refers values = ["index", "lost", "index", "index"] ∧
      timesTold .duplicateId ["first"] (ofBooks.run document).diagnostics = 1 ∧
      underRule .unresolvedIdref
          ((ofBooks.run inRoot).validator.step (.endElement (plain "book"))).diagnostics =
        [⟨.unresolvedIdref, "book", ["lost"]⟩] := by
  intro inRoot document values
  have declared : identifiersOf .declares values = ["first", "first", "index"] := by
    decide +kernel
  have referred : identifiersOf .refers values = ["index", "lost", "index", "index"] := by
    decide +kernel
  have validates : (ofBooks.run (.startDocument :: ([.comment "draft"] ++
      [.startElement (plain "book") []]))).validator.isValidating = true := by
    decide +kernel
  have runs : (ofBooks.run inRoot).failure = none := by decide +kernel
  obtain ⟨told, -, settled⟩ := run_identifies ofBooks [.comment "draft"] insideBook (plain "book")
    (plain "book") [] (by decide) (by decide) (by decide) validates runs
  have once : timesTold .duplicateId ["first"] (ofBooks.run document).diagnostics =
      (identifiersOf .declares values).count "first" - 1 := told "first"
  have missing : underRule .unresolvedIdref
      ((ofBooks.run inRoot).validator.step (.endElement (plain "book"))).diagnostics =
        ((identifiersOf .refers values).eraseDups.filter fun identifier =>
          !(identifiersOf .declares values).contains identifier).map
            fun identifier => ⟨.unresolvedIdref, "book", [identifier]⟩ := settled
  rw [declared] at once missing
  rw [referred] at missing
  exact ⟨declared, referred, once, missing⟩

end Validator

end SchemaAssessment

/-
Fixed values are honoured where nothing is told. An element whose declaration fixes its
value goes on with a text that stands for this value: its own, if it has one, and else the
one that is supplied. Its own text is compared with the fixed one; the supplied one is not,
but it is the fixed one as the type leaves it, which the type reads alike.
-/

import SchemaAssessment.Proofs.Assessment.AttributeVerdict
import SchemaAssessment.Proofs.Assessment.Transparency
import SchemaAssessment.Proofs.Value.WhiteSpace

namespace SchemaAssessment

/-! ### Texts that stand for a fixed value -/

/-- A text stands for a fixed one in a simple type: it is valid, and its value is that of the fixed
text; if that is not valid itself, the value is written as the type leaves the fixed text. -/
def SimpleType.Realizes (type : SimpleType) (scopes : NamespaceScopes) (text fixed : String) :
    Prop :=
  ∃ value, type.validate scopes text = .ok value ∧ type.Fits scopes value fixed

/-- The fixed text stands for itself as the type leaves it, if that is valid. -/
theorem SimpleType.realizes_normalize {type : SimpleType} {scopes : NamespaceScopes}
    {fixed : String} {value : Value}
    (valid : type.validate scopes (type.normalize fixed) = .ok value) :
    type.Realizes scopes (type.normalize fixed) fixed :=
  ⟨value, valid, (type.agrees_iff scopes value fixed).mp
    (agrees_of_validate (type.validate_normalize scopes fixed ▸ valid))⟩

/-- The content of the type is mixed. -/
def TypeDefinition.isMixed : TypeDefinition → Bool
  | .simple _ => false
  | .complex type => type.content == .mixed

namespace Validator

variable {validator : Validator} {frame : Frame} {type : KnownType}
  {declaration : KnownElement} {simple : SimpleType} {text fixed : String}

/-- A text is what a fixed value asks for under a type: it stands for the value in the simple type
of the text, if there is one, and under mixed content it is the fixed text itself. -/
structure Honours (validator : Validator) (type : TypeDefinition) (text fixed : String) : Prop where
  valued : ∀ simple, validator.valueType? type = some simple →
    simple.Realizes validator.scopes text fixed
  mixed : type.isMixed = true → text = fixed

/-- Elements of the type hold character data. -/
def holdsText (validator : Validator) (type : TypeDefinition) : Bool :=
  (validator.valueType? type).isSome || type.isMixed

theorem valueType?_of_isMixed {definition : TypeDefinition} (isMixed : definition.isMixed = true) :
    validator.valueType? definition = none := by
  cases definition with
  | simple simple => cases isMixed
  | complex complex =>
    have mixed : complex.content = .mixed := eq_of_beq isMixed
    rw [valueType?, mixed]
    rfl

/-! ### Content about which nothing is found -/

/-- A content with a simple type has no children, or this is found; and then its text is checked. -/
theorem checkContent_of_valued {definition : TypeDefinition}
    (valued : validator.valueType? definition = some simple) :
    (∃ finding, validator.checkContent frame definition text = (none, [finding])) ∨
      frame.childCount = 0 ∧ validator.checkContent frame definition text =
        validator.checkValue frame.raw simple text := by
  unfold checkContent
  unfold valueType? at valued
  cases definition with
  | simple own =>
    obtain rfl := Option.some.inj valued
    dsimp only
    split
    · exact .inl ⟨_, rfl⟩
    · next childless => exact .inr ⟨Nat.eq_zero_of_not_pos childless, rfl⟩
  | complex complex =>
    dsimp only at valued ⊢
    split at valued
    · next isSimple =>
      obtain rfl := Option.some.inj valued
      rw [eq_of_beq isSimple]
      dsimp only
      split
      · exact .inl ⟨_, rfl⟩
      · next childless => exact .inr ⟨Nat.eq_zero_of_not_pos childless, rfl⟩
    · cases valued

/-- Where nothing is found about a content with a simple type, there are no children, and the text
is valid. -/
theorem valid_of_checkContent {definition : TypeDefinition}
    (valued : validator.valueType? definition = some simple)
    (nothing : (validator.checkContent frame definition text).2 = []) :
    frame.childCount = 0 ∧ ∃ value, simple.validate validator.scopes text = .ok value ∧
      (validator.checkContent frame definition text).1.map TypedAttribute.value = some value := by
  rcases @checkContent_of_valued validator frame simple text definition valued with
    ⟨finding, found⟩ | ⟨childless, checked⟩
  · rw [found] at nothing
    cases nothing
  · rw [checked, checkValue] at nothing ⊢
    cases valid : simple.validate validator.scopes text with
    | error fault =>
      rw [valid] at nothing
      cases nothing
    | ok value => exact ⟨childless, value, rfl, rfl⟩

/-- Where nothing is found against a fixed value, the value of the element agrees with it. -/
theorem agrees_of_checkFixed {definition : TypeDefinition} {value : Value}
    (valued : validator.valueType? definition = some simple)
    (nothing : validator.checkFixed frame definition (some value) fixed = []) :
    simple.agrees validator.scopes value fixed = true := by
  have compared : (if simple.agrees validator.scopes value fixed then []
      else [⟨.fixedValueMismatch, frame.raw, [frame.raw, frame.text, fixed]⟩]) =
        ([] : List Diagnostic) := by
    unfold checkFixed at nothing
    rw [valued] at nothing
    cases definition with
    | simple own => exact nothing
    | complex complex =>
      dsimp only at nothing
      split at nothing
      · cases nothing
      · split at nothing
        · next isMixed =>
          have untyped : validator.valueType? (.complex complex) = none :=
            valueType?_of_isMixed isMixed
          cases untyped.symm.trans valued
        · exact nothing
  by_contra differs
  rw [if_neg differs] at compared
  cases compared

/-- Where nothing is found against a fixed value of mixed content, it is the text, and there are no
children. -/
theorem fixed_of_checkFixed {definition : TypeDefinition} (isMixed : definition.isMixed = true)
    {value : Option Value} (nothing : validator.checkFixed frame definition value fixed = []) :
    frame.childCount = 0 ∧ frame.text = fixed := by
  cases definition with
  | simple own => cases isMixed
  | complex complex =>
    have mixed : (complex.content == .mixed) = true := isMixed
    unfold checkFixed at nothing
    dsimp only at nothing
    rw [mixed, if_pos rfl] at nothing
    split at nothing
    · cases nothing
    · next childless =>
      refine ⟨Nat.eq_zero_of_not_pos childless, ?_⟩
      by_contra differs
      rw [if_neg fun same => differs (eq_of_beq same)] at nothing
      cases nothing

/-! ### The content of an element with a fixed value -/

/-- An element whose declaration fixes its value, and which neither is nil nor claims to be. -/
structure IsFixed (frame : Frame) (type : KnownType) (fixed : String) : Prop where
  typed : frame.type = some type
  fixes : ∃ declaration, frame.declaration = some declaration ∧
    declaration.declaration.constraint = some (.fixed fixed)
  isNil : frame.isNil = false
  isNilRefused : frame.isNilRefused = false

/-- A bare element takes the fixed text as its type leaves it. It is not compared with the fixed
one again, but it is checked. -/
theorem IsFixed.assess_bare (isFixed : IsFixed frame type fixed) (bare : frame.isBare = true)
    (validator : Validator) : (validator.assessContent frame).1.supplied =
        some (((validator.valueType? type.definition).map fun simple =>
          simple.normalize fixed).getD fixed) ∧
      ∃ before, (validator.assessContent frame).2 = before ++
        (validator.checkContent frame type.definition
          (((validator.valueType? type.definition).map fun simple =>
            simple.normalize fixed).getD fixed)).2 := by
  obtain ⟨declaration, declared, constrained⟩ := isFixed.fixes
  have assessed : validator.assessContent frame =
      validator.supplyContent frame declaration type fixed := by
    rw [assessContent, isFixed.typed]
    dsimp only
    rw [isFixed.isNilRefused, isFixed.isNil, assessPresent, declared, Option.bind_some, constrained,
      bare]
    rfl
  rw [assessed]
  exact ⟨rfl, _, rfl⟩

/-- The text of an element that is not bare is checked and then compared. -/
theorem IsFixed.assess_filled (isFixed : IsFixed frame type fixed)
    (filled : frame.isBare = false) (validator : Validator) :
    (validator.assessContent frame).1.supplied = none ∧
      (validator.assessContent frame).2 =
        (validator.checkContent frame type.definition frame.text).2 ++
          validator.checkFixed frame type.definition
            ((validator.checkContent frame type.definition frame.text).1.map TypedAttribute.value)
            fixed := by
  obtain ⟨declaration, declared, constrained⟩ := isFixed.fixes
  rw [assessContent, isFixed.typed]
  dsimp only
  rw [isFixed.isNilRefused, isFixed.isNil, assessPresent, declared, Option.bind_some, constrained,
    filled]
  exact ⟨rfl, rfl⟩

/-- Where nothing is found about the content of an element with a fixed value, the text that goes on
is what the fixed value asks for. -/
theorem IsFixed.honours (isFixed : IsFixed frame type fixed)
    (nothing : (validator.assessContent frame).2 = []) :
    validator.Honours type.definition
        ((validator.assessContent frame).1.supplied.getD frame.text) fixed ∧
      (validator.holdsText type.definition = true → frame.childCount = 0) := by
  cases bare : frame.isBare with
  | true =>
    have childless : frame.childCount = 0 := eq_of_beq (Bool.and_eq_true_iff.mp bare).1
    obtain ⟨supplied, before, found⟩ := isFixed.assess_bare bare validator
    rw [supplied, Option.getD_some]
    rw [found] at nothing
    refine ⟨⟨fun simple valued => ?_, fun isMixed => ?_⟩, fun _ => childless⟩
    · have checked := (List.append_eq_nil_iff.mp nothing).2
      rw [valued, Option.map_some, Option.getD_some] at checked ⊢
      obtain ⟨-, value, valid, -⟩ := valid_of_checkContent valued checked
      exact simple.realizes_normalize valid
    · rw [valueType?_of_isMixed isMixed]
      rfl
  | false =>
    obtain ⟨supplied, found⟩ := isFixed.assess_filled bare validator
    rw [supplied, Option.getD_none]
    rw [found] at nothing
    obtain ⟨checked, compared⟩ := List.append_eq_nil_iff.mp nothing
    refine ⟨⟨fun simple valued => ?_, fun isMixed => (fixed_of_checkFixed isMixed compared).2⟩,
      fun holds => ?_⟩
    · obtain ⟨-, value, valid, typed⟩ := valid_of_checkContent valued checked
      rw [typed] at compared
      exact ⟨value, valid, (simple.agrees_iff _ value fixed).mp
        (agrees_of_checkFixed valued compared)⟩
    · rcases Bool.or_eq_true_iff.mp holds with valued | isMixed
      · obtain ⟨simple, valued⟩ := Option.isSome_iff_exists.mp valued
        exact (valid_of_checkContent valued checked).1
      · exact (fixed_of_checkFixed isMixed compared).1

/-! ### Start tags about which nothing is told -/

/-- A claim to be nil is not refused without a finding. -/
theorem found_of_claimNil {element : String} {declared : Option KnownElement}
    {attributes : Attributes}
    (refused : (validator.claimNil element declared attributes).isRefused = true) :
    (validator.claimNil element declared attributes).found ≠ [] := by
  unfold claimNil at refused ⊢
  cases claims : attributes.value? (instanceName "nil") with
  | none =>
    rw [claims] at refused
    cases refused
  | some value =>
    rw [claims] at refused
    cases declared with
    | none => exact List.cons_ne_nil _ _
    | some found =>
      dsimp only at refused ⊢
      by_cases isNillable : found.declaration.isNillable = true
      · rw [if_pos isNillable, nilClaim] at refused
        split at refused <;> cases refused
      · rw [if_neg isNillable]
        exact List.cons_ne_nil _ _

theorem openTyped_tells_claim (validator : Validator) (name : QualifiedName)
    (attributes : Attributes) (declared : Option KnownElement) (type : KnownType) :
    ∃ after, (validator.openTyped name attributes declared type).2.2 = abstractType name.raw type ++
      (validator.claimNil name.raw declared attributes).found ++ after := by
  unfold openTyped
  dsimp only
  simp only [List.append_assoc]
  exact ⟨_, rfl⟩

/-- Behind a start tag about which nothing is told, an element that is assessed has made no claim
that was refused. -/
theorem isNilRefused_of_start {name : QualifiedName} {attributes : Attributes}
    {outer : List Frame} (passes : (validator.start name attributes).failure = none)
    (outside : (validator.start name attributes).validator.isSkipping = false)
    (validates : (validator.start name attributes).validator.isValidating = true)
    (frames : (validator.start name attributes).validator.frames = frame :: outer)
    (nothing : (validator.start name attributes).diagnostics = []) :
    frame.isNilRefused = false := by
  rcases validator.start_cases name attributes with
    ⟨fails, -⟩ | ⟨skipping, passed, -⟩ | ⟨-, -, behind, ⟨hints, -, found⟩, -⟩
  · exact absurd passes fails
  · rw [passed] at outside
    cases outside.symm.trans skipping
  · let prepared := validator.prepared name attributes
    let offered := (prepared.offer name.expanded).1
    rw [behind] at outside validates frames
    rcases prepared.receive_ways name attributes with
      ⟨-, same⟩ | ⟨declared, isStrict, -, ⟨-, same⟩ | ⟨type, -, same⟩⟩
    · rw [same] at outside
      cases outside
    · rw [same] at outside
      cases outside
    · obtain ⟨⟨identifiers, identities, state⟩, -⟩ :=
        offered.openTyped_shape name attributes declared type
      obtain ⟨after, told_⟩ := offered.openTyped_tells_claim name attributes declared type
      rw [same] at validates frames
      dsimp only at validates frames
      rw [state] at validates frames
      obtain ⟨rfl, -⟩ := List.cons.inj frames
      have decided : prepared.isValidating = true :=
        (prepared.offer_isValidating name.expanded).symm.trans validates
      rw [found, decided, told, if_pos rfl, same] at nothing
      dsimp only at nothing
      rw [told_] at nothing
      by_contra refused
      refine found_of_claimNil (Bool.eq_true_of_not_eq_false refused) ?_
      simp only [List.append_eq_nil_iff] at nothing
      exact nothing.2.2.1.2

/-! ### What goes on between the tags -/

/-- Between the tags of an element without children everything goes on as it is. -/
theorem run_childless {stretch : Stretch} (childless : stretch.breadth = 0) :
    (validator.run stretch.events).events = stretch.events := by
  induction stretch generalizing validator with
  | nothing => rfl
  | flat event isFlat later ofLater =>
    obtain ⟨-, passes, events, -⟩ := validator.step_flat isFlat
    rw [Stretch.events, run_cons_of_passes passes, events, ofLater childless]
    rfl
  | element => cases childless

end Validator

theorem Event.textOf_append (first rest : List Event) :
    Event.textOf (first ++ rest) = Event.textOf first ++ Event.textOf rest := by
  rw [textOf, List.filterMap_append, String.join_append]
  rfl

theorem Stretch.textOf_events {stretch : Stretch} (childless : stretch.breadth = 0) :
    Event.textOf stretch.events = stretch.text := by
  induction stretch with
  | nothing => rfl
  | flat event isFlat later ofLater =>
    rw [events, text, ← ofLater childless]
    unfold Event.textOf
    rw [List.filterMap_cons]
    cases event.characters? with
    | none => exact (String.empty_append).symm
    | some text => exact String.join_cons
  | element => cases childless

namespace Validator

variable {validator : Validator}

/-- The character data that an end tag has in front of it. -/
theorem textOf_finish (ending : QualifiedName) :
    Event.textOf (validator.finish ending).events = validator.supplied?.getD "" := by
  rw [finish_events, Event.textOf_append]
  cases validator.supplied? with
  | none => rfl
  | some text =>
    have own : Event.textOf [.characters text] = text := by simp [Event.textOf, Event.characters?]
    exact (congrArg (· ++ "") own).trans String.append_empty

/-! ### Runs that tell nothing -/

theorem diagnostics_of_run_append {first rest : List Event}
    (runs : (validator.run first).failure = none)
    (nothing : (validator.run (first ++ rest)).diagnostics = []) :
    (validator.run first).diagnostics = [] ∧
      ((validator.run first).validator.run rest).diagnostics = [] := by
  rw [run_append _ _ _ runs] at nothing
  exact List.append_eq_nil_iff.mp nothing

theorem diagnostics_of_run_cons {event : Event} {rest : List Event}
    (passes : (validator.step event).failure = none)
    (nothing : (validator.run (event :: rest)).diagnostics = []) :
    (validator.step event).diagnostics = [] ∧
      ((validator.step event).validator.run rest).diagnostics = [] := by
  rw [run_cons_of_passes passes] at nothing
  exact List.append_eq_nil_iff.mp nothing

/-- Between its start tag and its end tag, an element goes on with the text that it is assessed
with, if it has no children. -/
theorem textOf_between {opened : Validator} {inside : Stretch} {frame : Frame}
    {outer : List Frame} (settled : opened.Settled)
    (runs : (opened.run inside.events).failure = none) (outside : opened.isSkipping = false)
    (frames : opened.frames = frame :: outer) (fresh : frame.text = "")
    (childless : inside.breadth = 0) (ending : QualifiedName) :
    let inner := (opened.run inside.events).validator
    let filled := frame.fill (opened.children inside) inside.text
    Event.textOf (opened.run (inside.events ++ [.endElement ending])).events =
      (inner.assessContent filled).1.supplied.getD filled.text := by
  intro inner filled
  have resumes := run_stretch settled runs
  have text : filled.text = inside.text := by
    obtain ⟨content, hasText, same⟩ := frame.fill_eq (opened.children inside) inside.text
    show (frame.fill (opened.children inside) inside.text).text = _
    rw [same, fresh, String.empty_append]
  have supplied : inner.supplied? = (inner.assessContent filled).1.supplied :=
    supplied?_of_frame (resumes.isSkipping.trans outside) (resumes.frames_of_open outside frames)
  have finished : (inner.run [.endElement ending]).events = (inner.finish ending).events := by
    rw [run_cons_of_passes rfl]
    exact List.append_nil _
  rw [run_append _ _ _ runs, run_childless childless, finished, Event.textOf_append,
    Stretch.textOf_events childless, textOf_finish, supplied, text]
  cases given : (inner.assessContent filled).1.supplied with
  | none => exact String.append_empty
  | some text' =>
    -- only a bare element is given text
    obtain ⟨bare, -⟩ := (inner.assessContent_supplied filled text').mp given
    have empty := String.isEmpty_iff.mp (Bool.and_eq_true_iff.mp bare).2
    rw [← text, empty]
    exact String.empty_append

/-- In a run that tells nothing, nothing is told at the tags of an element. -/
theorem nothing_told_at_tags {before after : List Event} {name ending : QualifiedName}
    {attributes : Attributes} {inside : Stretch}
    (runs : (validator.run (before ++
      (Stretch.element name attributes inside ending .nothing).events)).failure = none)
    (clean : (validator.run
      ((before ++ (Stretch.element name attributes inside ending .nothing).events) ++
        after)).diagnostics = []) :
    let here := (validator.run before).validator
    let opened := (here.start name attributes).validator
    (here.start name attributes).failure = none ∧ (opened.run inside.events).failure = none ∧
      (here.start name attributes).diagnostics = [] ∧
        ((opened.run inside.events).validator.finish ending).diagnostics = [] := by
  obtain ⟨runsBefore, runsElement, -⟩ := runs_of_runs_append runs
  obtain ⟨passes, further, -⟩ := run_cons_of_runs runsElement
  obtain ⟨runsInside, -⟩ := runs_of_runs_append further
  have ofElement := (diagnostics_of_run_append runsBefore
    (diagnostics_of_run_append runs clean).1).2
  obtain ⟨atStart, ofRest⟩ := diagnostics_of_run_cons passes ofElement
  have atEnd := (diagnostics_of_run_append runsInside ofRest).2
  exact ⟨passes, runsInside, atStart, (diagnostics_of_run_cons rfl atEnd).1⟩

/-- **A run that tells nothing honours fixed values.** Whatever else the events are, each assessed
element that is not nil and whose declaration fixes its value goes on, between its tags, with a text
that the fixed value asks for, and holds no elements, if its type is simple or has simple or mixed
content. -/
theorem clean_run_honours_fixed (reachable : validator.Reachable) {before after : List Event}
    {name ending : QualifiedName} {attributes : Attributes} {inside : Stretch}
    (runs : (validator.run (before ++
      (Stretch.element name attributes inside ending .nothing).events)).failure = none)
    (clean : (validator.run ((before ++
      (Stretch.element name attributes inside ending .nothing).events) ++ after)).diagnostics = [])
    {frame : Frame} {outer : List Frame} {type : KnownType} {declaration : KnownElement}
    {fixed : String} :
    let opened := ((validator.run before).validator.start name attributes).validator
    let inner := (opened.run inside.events).validator
    opened.isSkipping = false → opened.isValidating = true → opened.frames = frame :: outer →
      frame.type = some type → frame.declaration = some declaration →
      declaration.declaration.constraint = some (.fixed fixed) → frame.isNil = false →
      inner.holdsText type.definition = true →
      inside.breadth = 0 ∧ inner.Honours type.definition
        (Event.textOf (opened.run (inside.events ++ [.endElement ending])).events) fixed := by
  intro opened inner outside validates frames typed declared constrained isNil holds
  obtain ⟨passes, runsInside, atStart, atEnd⟩ := nothing_told_at_tags runs clean
  have settled : opened.Settled := start_settled (reachable.run before).settled passes
  have resumes := run_stretch settled runsInside
  have below : opened.frames ≠ [] := frames ▸ List.cons_ne_nil frame outer
  obtain ⟨fresh, others, childCount, noText, same⟩ := start_fresh passes outside
  obtain ⟨rfl, -⟩ := List.cons.inj (frames.symm.trans same)
  -- What the element holds at its end shows nowhere but in the number of children and the text.
  let filled := frame.fill (opened.children inside) inside.text
  obtain ⟨content, hasText, whole⟩ := frame.fill_eq (opened.children inside) inside.text
  have isNilRefused := isNilRefused_of_start passes outside validates frames atStart
  have isFixed : IsFixed filled type fixed := by
    show IsFixed (frame.fill (opened.children inside) inside.text) type fixed
    rw [whole]
    exact ⟨typed, ⟨declaration, declared, constrained⟩, isNil, isNilRefused⟩
  have count : filled.childCount = inside.breadth := by
    show (frame.fill (opened.children inside) inside.text).childCount = _
    rw [whole, childCount, Nat.zero_add, length_children]
  have nothing : (inner.assessContent filled).2 = [] := by
    obtain ⟨found, -, told_⟩ := finish_found (resumes.isSkipping.trans outside)
      (resumes.frames_of_open outside frames) ending
    rw [atEnd, (resumes.isValidating below).trans validates, told, if_pos rfl] at told_
    exact (List.append_eq_nil_iff.mp told_.symm).1
  obtain ⟨honours, childless⟩ := isFixed.honours nothing
  have breadth : inside.breadth = 0 := count.symm.trans (childless holds)
  refine ⟨breadth, ?_⟩
  rw [textOf_between settled runsInside outside frames noText breadth ending]
  exact honours

/-- A seal says the same on every letter. -/
def sealDeclaration : ElementDeclaration :=
  { ElementDeclaration.ofName (.unqualified "seal") with
    type := some (.simple (.ofDatatype .token))
    constraint := some (.fixed " dear  guest ") }

/-- A validator that knows of letters, which may hold a seal. -/
def ofSeals : Validator :=
  .initial (.put .nothing (((Grammar.empty none).addElement
    (holding "letter" [] ["seal"])).addElement sealDeclaration)) none {}

/-- The beginning of a letter. -/
def letter : List Event := [.startDocument, .startElement (plain "letter") []]

/-- The inside of a seal that is left blank. -/
def blank : Stretch := .flat (.comment "blank") rfl .nothing

theorem clean_run_honours_fixed_seals :
    let opened := ((ofSeals.run letter).validator.start (plain "seal") []).validator
    let inner := (opened.run blank.events).validator
    let between := (opened.run (blank.events ++ [.endElement (plain "seal")])).events
    Event.textOf between = "dear guest" ∧ ∃ type,
      (opened.frames.headD { name := plain "" }).type = some type ∧
        inner.Honours type.definition (Event.textOf between) " dear  guest " := by
  intro opened inner between
  have runs : (ofSeals.run (letter ++ (Stretch.element (plain "seal") [] blank (plain "seal")
      .nothing).events)).failure = none := by
    decide +kernel
  have clean : (ofSeals.run ((letter ++ (Stretch.element (plain "seal") [] blank (plain "seal")
      .nothing).events) ++ [.endElement (plain "letter")])).diagnostics = [] := by
    decide +kernel
  let frame := opened.frames.headD { name := plain "" }
  have frames : opened.frames = frame :: opened.frames.tail := rfl
  let type := frame.type.get (by decide +kernel)
  let declaration := frame.declaration.get (by decide +kernel)
  have typed : frame.type = some type := (Option.some_get _).symm
  have declared : frame.declaration = some declaration := (Option.some_get _).symm
  refine ⟨by decide +kernel, type, typed, ?_⟩
  exact (clean_run_honours_fixed (Reachable.initial ..) runs clean (by decide +kernel)
    (by decide +kernel) frames typed declared (by decide +kernel) (by decide +kernel)
    (by decide +kernel)).2

end Validator

end SchemaAssessment

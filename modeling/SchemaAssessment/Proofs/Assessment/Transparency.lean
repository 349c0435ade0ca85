/-
A validator passes on what it is given. Each event of a document goes on as it is, except
that a start tag may have attributes behind its own ones, and that an end tag may have
text in front of it. The text is the value that the declaration of the element gives, and
it is there just if the element is assessed, is not nil and does not claim to be, and
holds neither elements nor text.
-/

import SchemaAssessment.Proofs.Assessment.Restoration

namespace SchemaAssessment.Validator

/-! ### Supplied text -/

/-- The declaration of an open element gives a value, and nothing keeps it from taking the place of
the content: the text is the value, in the form that the simple type of the element asks for,
if it has one. -/
structure Gives (validator : Validator) (frame : Frame) (text : String) : Prop where
  value : ∃ declaration constraint type, frame.declaration = some declaration ∧
    declaration.declaration.constraint = some constraint ∧ frame.type = some type ∧
      text = match validator.valueType? type.definition with
        | some simple => simple.normalize constraint.text
        | none => constraint.text
  isNil : frame.isNil = false
  isNilRefused : frame.isNilRefused = false

theorem gives_fill (validator : Validator) (frame : Frame) (children : List Child)
    (held text : String) :
    validator.Gives (frame.fill children held) text ↔ validator.Gives frame text := by
  obtain ⟨content, hasText, filled⟩ := frame.fill_eq children held
  rw [filled]
  exact ⟨fun gives => ⟨gives.value, gives.isNil, gives.isNilRefused⟩,
    fun gives => ⟨gives.value, gives.isNil, gives.isNilRefused⟩⟩

theorem assessPresent_supplied (validator : Validator) (frame : Frame) (type : KnownType)
    (text : String) :
    (validator.assessPresent frame type).1.supplied = some text ↔
      frame.isBare = true ∧ ∃ declaration constraint, frame.declaration = some declaration ∧
        declaration.declaration.constraint = some constraint ∧
          text = match validator.valueType? type.definition with
            | some simple => simple.normalize constraint.text
            | none => constraint.text := by
  unfold assessPresent
  dsimp only
  split
  · rename_i declaration constraint declared constrained bare
    rw [declared] at constrained ⊢
    have supplied : (validator.supplyContent frame declaration type constraint.text).1.supplied =
        some (match validator.valueType? type.definition with
          | some simple => simple.normalize constraint.text
          | none => constraint.text) := by
      unfold supplyContent
      cases validator.valueType? type.definition <;> rfl
    rw [supplied]
    constructor
    · intro same
      exact ⟨bare, declaration, constraint, rfl, constrained, (Option.some.inj same).symm⟩
    · rintro ⟨-, other, given, same, ofOther, rfl⟩
      obtain rfl := Option.some.inj same
      obtain rfl := Option.some.inj (constrained.symm.trans ofOther)
      rfl
  · rename_i otherwise
    refine iff_of_false nofun ?_
    rintro ⟨bare, declaration, constraint, declared, constrained, -⟩
    exact otherwise declaration constraint declared
      (by rw [declared]; exact constrained) bare

/-- An element is given text just if it holds neither elements nor text and its declaration gives a
value. -/
theorem assessContent_supplied (validator : Validator) (frame : Frame) (text : String) :
    (validator.assessContent frame).1.supplied = some text ↔
      frame.isBare = true ∧ validator.Gives frame text := by
  unfold assessContent
  cases typed : frame.type with
  | none =>
    refine iff_of_false nofun ?_
    rintro ⟨-, ⟨declaration, constraint, type, -, -, same, -⟩, -, -⟩
    cases typed.symm.trans same
  | some type =>
    dsimp only
    cases claimed : frame.isNilRefused with
    | true =>
      rw [if_pos rfl]
      exact iff_of_false nofun fun gives => by cases claimed.symm.trans gives.2.isNilRefused
    | false =>
      rw [if_neg Bool.false_ne_true]
      cases isNil : frame.isNil with
      | true =>
        rw [if_pos rfl]
        exact iff_of_false nofun fun gives => by cases isNil.symm.trans gives.2.isNil
      | false =>
        rw [if_neg Bool.false_ne_true, assessPresent_supplied]
        constructor
        · rintro ⟨bare, declaration, constraint, declared, constrained, same⟩
          exact ⟨bare, ⟨declaration, constraint, type, declared, constrained, typed, same⟩, isNil,
            claimed⟩
        · rintro ⟨bare, ⟨declaration, constraint, other, declared, constrained, same, value⟩, -, -⟩
          obtain rfl := Option.some.inj (typed.symm.trans same)
          exact ⟨bare, declaration, constraint, declared, constrained, value⟩

/-! ### Ends of elements -/

/-- The element that some events leave open is given a text, if it ends behind them. It is the one
of the last start tag that is still open, it is assessed, and all that it holds so far is
neither elements nor text. -/
def SuppliesBehind (validator : Validator) (events : List Event) (text : String) : Prop :=
  ∃ (before : List Event) (name : QualifiedName) (attributes : Attributes) (inside : Stretch)
    (frame : Frame) (outer : List Frame),
    let opened := ((validator.run before).validator.start name attributes).validator
    events = before ++ .startElement name attributes :: inside.events ∧
      opened.isSkipping = false ∧ opened.frames = frame :: outer ∧
      inside.breadth = 0 ∧ inside.text = "" ∧
        (opened.run inside.events).validator.Gives frame text

/-- Behind its start tag and a stretch, an element is given text just if it is assessed and holds
neither elements nor text, and its declaration gives a value. -/
theorem supplied?_of_stretch {opened : Validator} {inside : Stretch} (settled : opened.Settled)
    (runs : (opened.run inside.events).failure = none)
    (fresh : opened.isSkipping = false → ∃ (frame : Frame) (outer : List Frame),
      frame.childCount = 0 ∧ frame.text = "" ∧ opened.frames = frame :: outer)
    (text : String) :
    let inner := (opened.run inside.events).validator
    inner.supplied? = some text ↔ ∃ frame outer, opened.isSkipping = false ∧
      opened.frames = frame :: outer ∧ inside.breadth = 0 ∧ inside.text = "" ∧
        inner.Gives frame text := by
  intro inner
  have resumes := run_stretch settled runs
  cases skipping : opened.isSkipping with
  | true =>
    rw [supplied?_of_passed (.inl (resumes.isSkipping.trans skipping))]
    exact iff_of_false nofun fun ⟨_, _, outside, _⟩ => Bool.false_ne_true outside.symm
  | false =>
    obtain ⟨frame, outer, childCount, noText, frames⟩ := fresh skipping
    have framesInside := resumes.frames_of_open skipping frames
    have bare : (frame.fill (opened.children inside) inside.text).isBare = true ↔
        inside.breadth = 0 ∧ inside.text = "" := by
      obtain ⟨content, hasText, filled⟩ := frame.fill_eq (opened.children inside) inside.text
      rw [filled, Frame.isBare, childCount, noText, length_children, Nat.zero_add,
        String.empty_append, Bool.and_eq_true, beq_iff_eq, String.isEmpty_iff]
    rw [supplied?_of_frame (resumes.isSkipping.trans skipping) framesInside,
      assessContent_supplied, bare, gives_fill, and_assoc]
    constructor
    · rintro ⟨breadth, held, gives⟩
      exact ⟨frame, outer, rfl, frames, breadth, held, gives⟩
    · rintro ⟨other, others, -, same, breadth, held, gives⟩
      obtain ⟨rfl, -⟩ := List.cons.inj (frames.symm.trans same)
      exact ⟨breadth, held, gives⟩

/-- An element that is not passed through is on top of the open ones just behind its start tag, and
nothing has been seen of it. -/
theorem start_fresh {validator : Validator} {name : QualifiedName} {attributes : Attributes}
    (passes : (validator.start name attributes).failure = none)
    (outside : (validator.start name attributes).validator.isSkipping = false) :
    ∃ (frame : Frame) (outer : List Frame), frame.childCount = 0 ∧ frame.text = "" ∧
      (validator.start name attributes).validator.frames = frame :: outer := by
  obtain ⟨frame, fresh, -, frames⟩ := (receives_of_opened passes outside).admits.frames
  exact ⟨frame, _, fresh.childCount, fresh.text, frames⟩

section Idle

variable {validator : Validator} {events : List Event}

/-- Where no element is open none is assessed and none is passed through. -/
theorem IsIdle.run_unopened (idle : validator.IsIdle) (unopened : Unopened events)
    (runs : (validator.run events).failure = none) :
    (validator.run events).validator.frames = [] ∧
      (validator.run events).validator.isSkipping = false := by
  induction unopened with
  | nothing => exact ⟨idle.frames, congrArg Option.isSome idle.skipDepth⟩
  | begins earlier =>
    obtain ⟨-, -, behind⟩ := runs_of_runs_append runs
    rw [behind]
    exact ⟨rfl, rfl⟩
  | stretch unopened stretch ofEarlier =>
    obtain ⟨runsEarlier, runsStretch, behind⟩ := runs_of_runs_append runs
    obtain ⟨none, outside⟩ := ofEarlier runsEarlier
    have resumes := run_stretch (idle.aligned.run runsEarlier).settled runsStretch
    rw [behind]
    refine ⟨?_, resumes.isSkipping.trans outside⟩
    rw [resumes.frames, framesHolding, outside, if_neg Bool.false_ne_true, none]
    rfl
  | @stray earlier unopened ending ofEarlier =>
    obtain ⟨runsEarlier, -, behind⟩ := runs_of_runs_append runs
    obtain ⟨none, outside⟩ := ofEarlier runsEarlier
    have leaves := (validator.run earlier).validator.finish_leaves ending
    rw [behind, run_endElement]
    show (finish _ ending).validator.frames = [] ∧ (finish _ ending).validator.isSkipping = false
    refine ⟨?_, ?_⟩
    · rw [leaves.frames, none]
      exact ite_self _
    · rw [isSkipping, leaves.skipDepth, skipDepth_of_isSkipping outside, ite_self]
      rfl

/-- An end tag has text in front of it just if the element that it ends is given text. -/
theorem IsIdle.supplied?_eq_some_iff (idle : validator.IsIdle)
    (runs : (validator.run events).failure = none) (text : String) :
    (validator.run events).validator.supplied? = some text ↔
      validator.SuppliesBehind events text := by
  -- whichever start tag is taken for that of the innermost open element, it decides alike
  have decides {before : List Event} {name : QualifiedName} {attributes : Attributes}
      {inside : Stretch}
      (split : events = before ++ .startElement name attributes :: inside.events) :
      let opened := ((validator.run before).validator.start name attributes).validator
      (validator.run events).validator.supplied? = some text ↔
        ∃ frame outer, opened.isSkipping = false ∧ opened.frames = frame :: outer ∧
          inside.breadth = 0 ∧ inside.text = "" ∧
            (opened.run inside.events).validator.Gives frame text := by
    intro opened
    subst split
    obtain ⟨runsBefore, further, behind⟩ := runs_of_runs_append runs
    obtain ⟨passes, runsInside, same⟩ := run_cons_of_runs further
    rw [behind, same]
    exact supplied?_of_stretch ((idle.aligned.run runsBefore).start passes).settled runsInside
      (start_fresh passes) text
  constructor
  · intro supplied
    rcases isSorted events with unopened | ⟨before, name, attributes, inside, split⟩
    · rw [supplied?_of_passed (.inr (idle.run_unopened unopened runs).1)] at supplied
      cases supplied
    · obtain ⟨frame, outer, found⟩ := (decides split).mp supplied
      exact ⟨before, name, attributes, inside, frame, outer, split, found⟩
  · rintro ⟨before, name, attributes, inside, frame, outer, split, found⟩
    exact (decides split).mpr ⟨frame, outer, found⟩

end Idle

/-! ### What is passed on -/

/-- What an event is passed on as, once the events before it have been taken: a start tag with
attributes behind its own ones that the document does not give, and none where the subtree is
passed through; an end tag with text in front of it, just if its element is given text; and
any other event as it is. -/
inductive PassedOn (validator : Validator) (before : List Event) : Event → List Event → Prop where
  | startElement (name : QualifiedName) {attributes supplied : Attributes}
      (unspecified : ∀ member ∈ supplied, member.isSpecified = false)
      (nothing : (validator.run (before ++ [.startElement name attributes])).validator.isSkipping =
        true → supplied = []) :
      PassedOn validator before (.startElement name attributes)
        [.startElement name (attributes ++ supplied)]
  | supplied (ending : QualifiedName) {text : String}
      (supplies : validator.SuppliesBehind before text) :
      PassedOn validator before (.endElement ending) [.characters text, .endElement ending]
  | endElement (ending : QualifiedName)
      (nothing : ∀ text, ¬ validator.SuppliesBehind before text) :
      PassedOn validator before (.endElement ending) [.endElement ending]
  | other {event : Event} (isOther : event = .startDocument ∨ event.isFlat = true) :
      PassedOn validator before event [event]

section Idle

variable {validator : Validator} {before : List Event}

theorem start_passes_on {name : QualifiedName} {attributes : Attributes}
    (runs : (validator.run before).failure = none)
    (passes : ((validator.run before).validator.start name attributes).failure = none) :
    PassedOn validator before (.startElement name attributes)
      ((validator.run before).validator.start name attributes).events := by
  have behind : (validator.run (before ++ [.startElement name attributes])).validator =
      ((validator.run before).validator.start name attributes).validator :=
    run_concat runs passes
  cases skipping : (validator.run before).validator.isSkipping with
  | true =>
    have plain : PassedOn validator before (.startElement name attributes)
        [.startElement name (attributes ++ [])] := .startElement name nofun fun _ => rfl
    rw [List.append_nil] at plain
    rw [(start_passesInto passes skipping).2.2]
    exact plain
  | false =>
    obtain ⟨supplied, same, unspecified, nothing⟩ := (start_receives passes skipping).supplies
    rw [same]
    refine .startElement name unspecified ?_
    rw [behind]
    exact nothing

/-- One event is passed on as it is, with nothing but attributes and text added. -/
theorem IsIdle.step_passes_on (idle : validator.IsIdle)
    (runs : (validator.run before).failure = none) {event : Event}
    (passes : ((validator.run before).validator.step event).failure = none) :
    PassedOn validator before event ((validator.run before).validator.step event).events := by
  by_cases isFlat : event.isFlat = true
  · rw [(step_flat _ isFlat).2.2.1]
    exact .other (.inr isFlat)
  · cases event with
    | startDocument => exact .other (.inl rfl)
    | startElement name attributes => exact start_passes_on runs passes
    | endElement ending =>
      show PassedOn _ before _ ((validator.run before).validator.finish ending).events
      rw [finish_events]
      cases supplied : (validator.run before).validator.supplied? with
      | none =>
        refine .endElement ending fun text supplies => ?_
        cases supplied.symm.trans ((idle.supplied?_eq_some_iff runs text).mpr supplies)
      | some text => exact .supplied ending ((idle.supplied?_eq_some_iff runs text).mp supplied)
    | _ => exact absurd rfl isFlat

/-- Behind some events, the others are passed on in turn. -/
theorem IsIdle.rest_passes_on (idle : validator.IsIdle) (before rest : List Event)
    (runs : (validator.run (before ++ rest)).failure = none) :
    ∃ parts : List (List Event),
      ((validator.run before).validator.run rest).events = parts.flatten ∧
        parts.length = rest.length ∧
        ∀ index event, rest[index]? = some event → ∃ part, parts[index]? = some part ∧
          PassedOn validator (before ++ rest.take index) event part := by
  induction rest generalizing before with
  | nil => exact ⟨[], rfl, rfl, nofun⟩
  | cons event others ofOthers =>
    obtain ⟨runsBefore, further, -⟩ := runs_of_runs_append runs
    obtain ⟨passes, -⟩ := run_cons_of_runs further
    -- the event joins those before, so that the others are seen from behind it
    rw [List.append_cons] at runs
    obtain ⟨parts, same, length, each⟩ := ofOthers (before ++ [event]) runs
    rw [run_concat runsBefore passes] at same
    refine ⟨((validator.run before).validator.step event).events :: parts, ?_,
      congrArg (· + 1) length, fun index found here => ?_⟩
    · rw [run_cons_of_passes passes, same]
      rfl
    · cases index with
      | zero =>
        obtain rfl := Option.some.inj here
        refine ⟨_, rfl, ?_⟩
        rw [List.take_zero, List.append_nil]
        exact idle.step_passes_on runsBefore passes
      | succ index =>
        obtain ⟨part, there, passed⟩ := each index found here
        refine ⟨part, there, ?_⟩
        rw [List.take_succ_cons, List.append_cons]
        exact passed

end Idle

/-- In every run that does not fail, each event is passed on once and in its turn, with nothing but
attributes and text added. -/
theorem run_passes_on (registry : Registry) (source : Option GrammarSource)
    (configuration : Configuration) {events : List Event}
    (runs : ((initial registry source configuration).run events).failure = none) :
    ∃ parts : List (List Event),
      ((initial registry source configuration).run events).events = parts.flatten ∧
        parts.length = events.length ∧
        ∀ index event, events[index]? = some event → ∃ part, parts[index]? = some part ∧
          PassedOn (initial registry source configuration) (events.take index) event part :=
  (isIdle_initial registry source configuration).rest_passes_on [] events runs

/-! ### A card that is left blank -/

/-- Cards have a kind, which is a plain one unless they tell another, and greet a dear guest unless
they have a text of their own. -/
def cardDeclaration : ElementDeclaration :=
  let kind : AttributeDeclaration TypeReference :=
    ⟨.unqualified "kind", none, some (.default "plain")⟩
  { ElementDeclaration.ofName (.unqualified "card") with
    type := some (.complex { ComplexType.ofSimpleType none (.simple (.ofDatatype .token)) with
      attributes := { uses := [{ declaration := kind }] } })
    constraint := some (.default " dear  guest ") }

/-- A validator that knows of cards, and of a box that may hold a title and no cards. -/
def ofCards : Validator :=
  let grammar := (Grammar.empty none).addElement (holding "box" [] ["title"])
  let titled := grammar.addElement (ofText "title")
  .initial (.put .nothing (titled.addElement cardDeclaration)) none {}

/-- A box with a card that is passed through, since it is misplaced, and then one that is assessed
and is blank. -/
def blankCard : List Event := [
  .startDocument, .startElement (plain "box") [], .startElement (plain "card") [],
  .endElement (plain "card"), .startElement (plain "card") [], .comment "blank",
  .endElement (plain "card")]

theorem run_passes_on_blankCard :
    let outcome := ofCards.run blankCard
    outcome.events = [
      .startDocument, .startElement (plain "box") [], .startElement (plain "card") [],
      .endElement (plain "card"),
      .startElement (plain "card") [.supplied (.unqualified "kind") "plain"], .comment "blank",
      .characters "dear guest", .endElement (plain "card")] ∧
    ∃ parts : List (List Event), outcome.events = parts.flatten ∧
      parts.length = blankCard.length ∧
      ∀ index event, blankCard[index]? = some event → ∃ part, parts[index]? = some part ∧
        PassedOn ofCards (blankCard.take index) event part := by
  intro outcome
  have runs : (ofCards.run blankCard).failure = none := by decide +kernel
  exact ⟨by decide +kernel, run_passes_on _ _ _ runs⟩

end SchemaAssessment.Validator

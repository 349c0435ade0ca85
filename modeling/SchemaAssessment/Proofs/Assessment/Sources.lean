/-
The source of grammars. A validator asks it about the hints that it follows and about
nothing else, so that another source which finds the same at the locations to which those
hints lead makes no difference. With this, what hints do along a whole document.
-/

import SchemaAssessment.Proofs.Assessment.Hints

namespace SchemaAssessment

namespace Validator

/-! ### Another source -/

/-- The validator with another source of grammars. -/
def withSource (validator : Validator) (source : GrammarSource) : Validator :=
  { validator with source := some source }

end Validator

/-- An outcome with another source of grammars behind it. -/
def Outcome.withSource (outcome : Outcome) (source : GrammarSource) : Outcome :=
  { outcome with validator := outcome.validator.withSource source }

namespace Validator

/-- Asked some questions, another source gives a validator the same answers. -/
def AnswersAlike (validator : Validator) (other : GrammarSource) (asked : List Inquiry) : Prop :=
  ∀ inquiry ∈ asked, (validator.withSource other).answer inquiry = validator.answer inquiry

section source

variable (validator : Validator) {other : GrammarSource}

theorem followHint_withSource {element hint : String} {space : Option String}
    (alike : validator.AnswersAlike other (validator.inquiry? element space hint).toList) :
    (validator.withSource other).followHint element space hint =
      ((validator.followHint element space hint).1.withSource other,
        (validator.followHint element space hint).2) := by
  have registry : (validator.withSource other).registry = validator.registry := rfl
  have attempted : (validator.withSource other).attempted = validator.attempted := rfl
  by_cases known : (validator.registry.has space || validator.attempted.contains space) = true
  · rw [followHint, followHint, registry, attempted, if_pos known, if_pos known]
  · let inquiry : Inquiry := ⟨element, space, hint, validator.isValidating⟩
    rw [inquiry?, if_neg known] at alike
    have same : (validator.withSource other).answer inquiry = validator.answer inquiry :=
      alike inquiry (List.mem_singleton_self _)
    have unknown : validator.registry.has space = false := by
      simp only [Bool.or_eq_true, not_or, Bool.not_eq_true] at known
      exact known.1
    have loads := Registry.load_of_unknown inquiry unknown
    have answers : validator.registry.load (some other) space hint
        validator.configuration.directory =
          validator.registry.load validator.source space hint validator.configuration.directory := by
      rw [loads, loads]
      exact congrArg (Except.map _) same
    rw [followHint, followHint, registry, attempted, if_neg known, if_neg known]
    unfold withSource
    dsimp only
    rw [answers]
    split <;> rfl

theorem followHints_withSource {element : String} {hints : List (Option String × String)}
    (alike : validator.AnswersAlike other (validator.inquire element hints)) :
    (validator.withSource other).followHints element hints =
      ((validator.followHints element hints).1.withSource other,
        (validator.followHints element hints).2) := by
  induction hints generalizing validator with
  | nil => rfl
  | cons hint rest ofRest =>
    obtain ⟨space, hint⟩ := hint
    obtain ⟨first, later⟩ := List.forall_mem_append.mp alike
    obtain ⟨asks, -⟩ := validator.followHint_asks element space hint
    have further : (validator.followHint element space hint).1.AnswersAlike other
        ((validator.followHint element space hint).1.inquire element rest) := by
      intro inquiry member
      have same := later inquiry member
      unfold answer withSource at same ⊢
      dsimp only at same ⊢
      rw [asks.source, asks.configuration]
      exact same
    rw [followHints, followHints, validator.followHint_withSource first]
    dsimp only
    rw [ofRest _ further]

theorem beginRoot_withSource :
    (validator.withSource other).beginRoot = validator.beginRoot.withSource other := by
  have atRoot : (validator.withSource other).isAtRoot = validator.isAtRoot := rfl
  rw [beginRoot, beginRoot, atRoot]
  split <;> rfl

theorem decideDynamic_withSource (space : Option String) :
    (validator.withSource other).decideDynamic space =
      (validator.decideDynamic space).withSource other := by
  unfold decideDynamic
  by_cases decides : (validator.isAtRoot && validator.configuration.isDynamic &&
      !validator.registry.has space) = true
  · rw [if_pos decides]
    exact if_pos decides
  · rw [if_neg decides]
    exact if_neg decides

theorem startIdentities_withSource (other : GrammarSource) (event : ElementStart) :
    (validator.withSource other).startIdentities event =
      ((validator.startIdentities event).1.withSource other,
        (validator.startIdentities event).2) := by
  unfold startIdentities withSource
  dsimp only
  split <;> rfl

theorem claimNil_withSource (other : GrammarSource) (element : String)
    (declaration : Option KnownElement) (attributes : Attributes) :
    (validator.withSource other).claimNil element declaration attributes =
      validator.claimNil element declaration attributes := by
  unfold claimNil nilClaim withSource
  dsimp only

theorem openTyped_withSource (other : GrammarSource) (name : QualifiedName)
    (attributes : Attributes) (declaration : Option KnownElement) (type : KnownType) :
    (validator.withSource other).openTyped name attributes declaration type =
      ((validator.openTyped name attributes declaration type).1.withSource other,
        (validator.openTyped name attributes declaration type).2) := by
  have ready (identifiers : Identifiers) (frame : Frame) : { validator.withSource other with
      identifiers, frames := frame :: (validator.withSource other).frames } =
        ({ validator with identifiers, frames := frame :: validator.frames } :
          Validator).withSource other := rfl
  unfold openTyped
  dsimp only
  rw [claimNil_withSource, ready, startIdentities_withSource]
  rfl

theorem governingType_withSource (other : GrammarSource) (element : String)
    (declaration : Option KnownElement) (attributes : Attributes) :
    (validator.withSource other).governingType element declaration attributes =
      validator.governingType element declaration attributes := by
  unfold governingType chosenType withSource
  dsimp only

theorem openElement_withSource (other : GrammarSource) (name : QualifiedName)
    (attributes : Attributes) (declaration : Option KnownElement) (isStrict : Bool) :
    (validator.withSource other).openElement name attributes declaration isStrict =
      ((validator.openElement name attributes declaration isStrict).1.withSource other,
        (validator.openElement name attributes declaration isStrict).2) := by
  unfold openElement
  dsimp only
  rw [governingType_withSource]
  cases (validator.governingType name.raw declaration attributes).1 with
  | none => rfl
  | some type =>
    dsimp only
    rw [openTyped_withSource]

theorem receive_withSource (name : QualifiedName) (attributes : Attributes) :
    (validator.withSource other).receive name attributes =
      ((validator.receive name attributes).1.withSource other,
        (validator.receive name attributes).2) := by
  have offered : (validator.withSource other).offer name.expanded =
      ((validator.offer name.expanded).1.withSource other,
        (validator.offer name.expanded).2) := by
    rw [offer_eq, offer_eq]
    rfl
  rw [receive, receive, offered]
  dsimp only
  generalize validator.offer name.expanded = offer
  obtain ⟨taken, admission⟩ := offer
  have registry : (taken.withSource other).registry = taken.registry := rfl
  rw [registry]
  cases admission.receive taken.registry name.expanded with
  | skipped => rfl
  | assessed declaration isStrict =>
    dsimp only
    rw [openElement_withSource]

theorem loadHinted_withSource {element : String} {attributes : Attributes}
    (alike : validator.AnswersAlike other (if validator.configuration.followsHints then
      validator.inquire element (hints attributes) else [])) :
    (validator.withSource other).loadHinted element attributes =
      ((validator.loadHinted element attributes).1.withSource other,
        (validator.loadHinted element attributes).2) := by
  have follows : (validator.withSource other).configuration = validator.configuration := rfl
  rw [loadHinted, loadHinted, follows]
  by_cases followed : validator.configuration.followsHints = true
  · rw [if_pos followed] at alike ⊢
    rw [if_pos followed, validator.followHints_withSource alike]
  · rw [if_neg followed, if_neg followed]

theorem assessStart_withSource {name : QualifiedName} {attributes : Attributes}
    (alike : validator.beginRoot.AnswersAlike other
      (if validator.beginRoot.configuration.followsHints then
        validator.beginRoot.inquire name.raw (hints attributes) else [])) :
    (validator.withSource other).assessStart name attributes =
      (validator.assessStart name attributes).withSource other := by
  have loads := validator.beginRoot.loadHinted_withSource alike
  unfold assessStart
  dsimp only
  rw [beginRoot_withSource, loads]
  dsimp only
  rw [decideDynamic_withSource, receive_withSource]
  rfl

theorem start_eq (name : QualifiedName) (attributes : Attributes) :
    validator.start name attributes =
      match validator.deeper.checkLimits attributes with
      | .error fault => { validator := validator.deeper, failure := some (.limit fault) }
      | .ok () => if validator.isSkipping then validator.entered.pass (.startElement name attributes)
        else validator.entered.assessStart name attributes :=
  rfl

/-- A start tag does the same with another source that gives the same answers. -/
theorem start_withSource {name : QualifiedName} {attributes : Attributes}
    (alike : validator.AnswersAlike other
      (validator.inquiriesAt (.startElement name attributes))) :
    (validator.withSource other).start name attributes =
      (validator.start name attributes).withSource other := by
  have limits : (validator.withSource other).deeper.checkLimits attributes =
      validator.deeper.checkLimits attributes := rfl
  have skips : (validator.withSource other).isSkipping = validator.isSkipping := rfl
  have enters : (validator.withSource other).entered = validator.entered.withSource other := rfl
  rw [start_eq, start_eq, limits, skips, enters]
  unfold inquiriesAt at alike
  dsimp only at alike
  cases within : validator.deeper.checkLimits attributes with
  | error fault => rfl
  | ok =>
    rw [within] at alike
    cases skipping : validator.isSkipping with
    | true => rfl
    | false =>
      rw [skipping] at alike
      obtain ⟨_, begins, -⟩ := validator.entered.beginRoot_eq
      have same : validator.entered.beginRoot.AnswersAlike other
          (if validator.entered.beginRoot.configuration.followsHints then
            validator.entered.beginRoot.inquire name.raw (hints attributes) else []) := by
        rw [begins] at alike ⊢
        exact alike
      exact validator.entered.assessStart_withSource same

theorem finishIdentifiers_withSource (element : String) (typed : Option TypedAttribute) :
    (validator.withSource other).finishIdentifiers element typed =
      ((validator.finishIdentifiers element typed).1.withSource other,
        (validator.finishIdentifiers element typed).2) := by
  cases typed <;> rfl

theorem finishIdentities_withSource (value : Option Value) (element : String) :
    (validator.withSource other).finishIdentities value element =
      ((validator.finishIdentities value element).1.withSource other,
        (validator.finishIdentities value element).2) := by
  unfold finishIdentities withSource
  dsimp only
  split <;> rfl

theorem close_withSource (other : GrammarSource) :
    (validator.withSource other).close =
      (validator.close.1.withSource other, validator.close.2) := by
  have inside : (validator.withSource other).skipDepth = validator.skipDepth := rfl
  have open_ : (validator.withSource other).frames = validator.frames := rfl
  rw [close, close, inside, open_]
  split
  · unfold leaveSkip withSource
    dsimp only
    split <;> rfl
  · rfl
  · rename_i frame outer _ _
    have content : (validator.withSource other).assessContent frame =
        validator.assessContent frame := rfl
    unfold closeElement
    rw [content]
    dsimp only
    rw [finishIdentifiers_withSource]
    dsimp only
    rw [finishIdentities_withSource]
    rfl

/-- An event does the same with another source that gives the same answers. -/
theorem step_withSource {event : Event}
    (alike : validator.AnswersAlike other (validator.inquiriesAt event)) :
    (validator.withSource other).step event = (validator.step event).withSource other := by
  cases event with
  | startElement name attributes => exact validator.start_withSource alike
  | endElement ending =>
    have closed := validator.close_withSource other
    show (validator.withSource other).finish ending = (validator.finish ending).withSource other
    unfold finish
    rw [closed]
    rfl
  | characters text =>
    show ((validator.withSource other).addText text).pass _ = _
    have adds : (validator.withSource other).addText text =
        (validator.addText text).withSource other := by
      unfold addText withSource
      dsimp only
      split <;> rfl
    rw [adds]
    rfl
  | _ => rfl

/-- An event leaves the source and the configuration as they are. -/
theorem step_answer (other : GrammarSource) (event : Event) :
    (validator.step event).validator.answer = validator.answer ∧
      ((validator.step event).validator.withSource other).answer =
        (validator.withSource other).answer := by
  have outlasts := validator.step_outlasts event
  constructor
  · funext inquiry
    rw [answer, answer, outlasts.source, outlasts.configuration]
  · funext inquiry
    show inquiry.answer (some other) (validator.step event).validator.configuration.directory =
      inquiry.answer (some other) validator.configuration.directory
    rw [outlasts.configuration]

/-- A run does the same with another source that gives the same answers. -/
theorem run_withSource {events : List Event} (runs : (validator.run events).failure = none)
    (alike : validator.AnswersAlike other (validator.inquiries events)) :
    (validator.withSource other).run events = (validator.run events).withSource other := by
  induction events generalizing validator with
  | nil => rfl
  | cons event rest ofRest =>
    obtain ⟨passes, othersRun, -⟩ := run_cons_of_runs runs
    obtain ⟨here, later⟩ := List.forall_mem_append.mp alike
    have first := validator.step_withSource here
    have answers := validator.step_answer other event
    have others := ofRest (validator.step event).validator othersRun fun inquiry member => by
      rw [answers.1, answers.2]
      exact later inquiry member
    have also : ((validator.withSource other).step event).failure = none := by
      rw [first]
      exact passes
    have behind : ((validator.step event).withSource other).validator =
        (validator.step event).validator.withSource other := rfl
    rw [run_cons_of_passes passes, run_cons_of_passes also, first, behind, others]
    rfl

end source

/-! ### Documents -/

theorem inquiries_append {validator : Validator} {first rest : List Event}
    (runs : (validator.run first).failure = none) :
    validator.inquiries (first ++ rest) =
      validator.inquiries first ++ (validator.run first).validator.inquiries rest := by
  induction first generalizing validator with
  | nil => rfl
  | cons event others ofOthers =>
    obtain ⟨-, further, behind⟩ := run_cons_of_runs runs
    rw [List.cons_append, inquiries, inquiries, ofOthers further, behind, List.append_assoc]

/-- What is learned from a part of a document is kept up to its end. -/
theorem document_learns {validator : Validator} {inside seen : List Event}
    (within : ∀ event ∈ inside, event.isWithin = true)
    (part : seen <+: .startDocument :: (inside ++ [.endDocument]))
    (runs : (validator.run seen).failure = none) :
    ∃ learned, validator.reset.Asks learned (validator.inquiries seen) ∧
      (validator.run seen).validator.registry = learned.registry ∧
      underRule .schemaLoad (validator.run seen).diagnostics =
        validator.reports (validator.inquiries seen) := by
  rcases List.prefix_cons_iff.mp part with rfl | ⟨rest, rfl, shorter⟩
  · exact ⟨validator.reset, .nothing rfl rfl rfl rfl, rfl, rfl⟩
  · obtain ⟨passes, further, -⟩ := run_cons_of_runs runs
    rw [run_cons_of_passes passes, inquiries]
    change (validator.reset.run rest).failure = none at further
    rcases List.prefix_concat_iff.mp shorter with rfl | inner
    · obtain ⟨runsInside, runsEnd, -⟩ := runs_of_runs_append further
      obtain ⟨asks, tells⟩ := run_learns within runsInside
      have asked : validator.reset.inquiries (inside ++ [.endDocument]) =
          validator.reset.inquiries inside := by
        rw [inquiries_append runsInside]
        exact List.append_nil _
      have behind : validator.reset.run (inside ++ [.endDocument]) =
          { validator := (validator.reset.run inside).validator.release
            diagnostics := (validator.reset.run inside).diagnostics ++ []
            events := (validator.reset.run inside).events ++ [.endDocument]
            failure := none } := by
        rw [run_append _ _ _ runsInside]
        rfl
      refine ⟨(validator.reset.run inside).validator, ?_, ?_, ?_⟩
      · show validator.reset.Asks _ (validator.reset.inquiries (inside ++ [.endDocument]))
        rw [asked]
        exact asks
      · show (validator.reset.run (inside ++ [.endDocument])).validator.registry = _
        rw [behind]
        rfl
      · show underRule .schemaLoad (validator.reset.run (inside ++ [.endDocument])).diagnostics =
          validator.reset.reports (validator.reset.inquiries (inside ++ [.endDocument]))
        rw [behind, asked, List.append_nil, tells]
    · obtain ⟨asks, tells⟩ := run_learns (fun event member => within event (inner.subset member))
        further
      exact ⟨_, asks, rfl, tells⟩

/-- Another source with the same files is asked at the same locations, and answers alike if it does
so at those. -/
theorem answersAlike_of_loads {validator : Validator} {source other : GrammarSource}
    {asked : List Inquiry} (given : validator.source = some source)
    (files : other.fileExists = source.fileExists)
    (loads : ∀ inquiry ∈ asked, ∀ location,
      inquiry.location? source validator.configuration.directory = some location →
        other.load location = source.load location) :
    validator.AnswersAlike other asked := by
  intro inquiry member
  have same := loads inquiry member
  show other.find inquiry.space inquiry.hint validator.configuration.directory =
    inquiry.answer validator.source validator.configuration.directory
  rw [given]
  show _ = source.find inquiry.space inquiry.hint validator.configuration.directory
  unfold Inquiry.location? at same
  unfold GrammarSource.find
  rw [files]
  cases located : Location.resolve source.fileExists inquiry.hint
      validator.configuration.directory with
  | error fault => rfl
  | ok location =>
    rw [located] at same
    simp only [Except.mapError, bind, Except.bind]
    rw [same location rfl]

/-- What hints do along a document, up to any point of it. The grammars that were there at its
beginning are there as they were. Those that are added are the ones that the source gives for the
hints that are followed, each for the namespace that it was asked for; where it gives none nothing
is added. For a namespace at most one hint is followed, and none if there was a grammar, so that
it is told at most once that there is none. Inside of a subtree that is passed through the attributes
of a tag do nothing. And the source is asked for nothing else: any other that finds the same at the
locations to which those hints lead would do. -/
theorem run_follows_hints (validator : Validator) {inside seen : List Event}
    (within : ∀ event ∈ inside, event.isWithin = true)
    (part : seen <+: .startDocument :: (inside ++ [.endDocument]))
    (runs : (validator.run seen).failure = none) :
    let outcome := validator.run seen
    let asked := validator.inquiries seen
    (∀ space registration, validator.registry.registration? space = some registration →
        outcome.validator.registry.registration? space = some registration) ∧
      outcome.validator.registry = (validator.answers asked).foldl Registry.put validator.registry ∧
      (∀ inquiry ∈ asked, validator.registry.has inquiry.space = false ∧
        ∀ grammar, validator.answer inquiry = .ok grammar → grammar.target = inquiry.space) ∧
      (asked.map Inquiry.space).Nodup ∧
      underRule .schemaLoad outcome.diagnostics = validator.reports asked ∧
      (outcome.validator.isSkipping = true → ∀ name attributes,
        (outcome.validator.start name attributes).failure = none →
          outcome.validator.start name attributes =
            outcome.validator.entered.pass (.startElement name attributes)) ∧
      ∀ source other : GrammarSource, validator.source = some source →
        other.fileExists = source.fileExists →
          (∀ inquiry ∈ asked, ∀ location,
            inquiry.location? source validator.configuration.directory = some location →
              other.load location = source.load location) →
            (validator.withSource other).run seen = outcome.withSource other := by
  intro outcome asked
  obtain ⟨learned, asks, registry, tells⟩ := document_learns within part runs
  have unknown : ∀ inquiry ∈ asked, validator.registry.has inquiry.space = false := asks.unknown
  have added : learned.registry = (validator.answers asked).foldl Registry.put validator.registry :=
    asks.registry
  refine ⟨fun space registration known => ?_, registry.trans added,
    fun inquiry member => ⟨unknown inquiry member, fun grammar => Inquiry.target_of_answer⟩,
    asks.once, tells, fun skipping name attributes passes => ?_,
    fun source other given files loads => ?_⟩
  · rw [registry]
    exact asks.keeps space registration known
  · rw [start_of_passes _ name attributes passes, if_pos skipping]
  · exact validator.run_withSource runs (answersAlike_of_loads given files loads)

/-- A source that has a grammar for labels, and nothing else. -/
def labelSource : GrammarSource where
  fileExists _ := false
  load location := if location.shown = "labels.json" then
    .ok ((Grammar.empty (some "urn:labels")).addElement (ofText "label"))
    else .error (.resource .noLoader)

/-- A tree with hints for two namespaces, of which one is given twice; and something misplaced that is
passed through, with a hint inside. -/
def hintedTree : List Event :=
  let hint (value : String) : Attribute :=
    .specified ⟨some "xsi", "schemaLocation", some instanceNamespace⟩ value
  [.startDocument,
    .startElement (plain "tree") [hint
      "urn:cards cards.json urn:labels labels.json urn:cards labels.json"],
    .startElement (plain "leaf") [],
    .startElement (plain "label") [hint "urn:leaves leaves.json"]]

theorem run_follows_hints_hintedTree :
    let validator := ofBranches.withSource labelSource
    let outcome := validator.run hintedTree
    let asked := validator.inquiries hintedTree
    outcome.failure = none ∧
      (asked.map fun inquiry => (inquiry.space, inquiry.hint)) =
        [(some "urn:cards", "cards.json"), (some "urn:labels", "labels.json")] ∧
      underRule .schemaLoad outcome.diagnostics = validator.reports asked ∧
      (validator.reports asked).length = 1 ∧
      outcome.validator.registry.grammar? none = validator.registry.grammar? none ∧
      outcome.validator.registry.has (some "urn:labels") = true ∧
      outcome.validator.registry.has (some "urn:cards") = false ∧
      outcome.validator.isSkipping = true := by
  intro validator outcome asked
  have runs : outcome.failure = none := by decide +kernel
  have within : ∀ event ∈ hintedTree.tail, event.isWithin = true := by decide
  have part : hintedTree <+: .startDocument :: (hintedTree.tail ++ [.endDocument]) :=
    List.prefix_append hintedTree [.endDocument]
  obtain ⟨keeps, -, -, -, tells, -, -⟩ := run_follows_hints validator within part runs
  obtain ⟨registration, known⟩ : ∃ registration,
      validator.registry.registration? none = some registration := ⟨_, rfl⟩
  have kept : outcome.validator.registry.grammar? none = validator.registry.grammar? none := by
    rw [Registry.grammar?, Registry.grammar?, known]
    exact congrArg _ (keeps none registration known)
  refine ⟨runs, ?_, tells, ?_, kept, ?_⟩ <;> decide +kernel

end Validator

end SchemaAssessment

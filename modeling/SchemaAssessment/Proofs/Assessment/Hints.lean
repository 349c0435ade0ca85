/-
Which hints are followed, and what becomes of it. A hint is followed if there is neither
a grammar for its namespace nor an earlier hint for it, so that the source of grammars is
asked at most once for each namespace. A grammar that it gives is for that namespace, and
is added to those that are there; where it gives none the grammars stay as they are. Tags
inside of a subtree that is passed through are not looked at for hints.
-/

import Mathlib.Data.List.Nodup
import SchemaAssessment.Proofs.Assessment.Restoration

namespace SchemaAssessment

/-- A hint that is followed: the element on which it stands, the namespace and the place that it
gives, and whether findings are told. -/
structure Inquiry where
  element : String
  space : Option String
  hint : String
  isTold : Bool
  deriving DecidableEq, Repr

namespace Inquiry

/-- The location at which the source is asked for a grammar. -/
def location? (inquiry : Inquiry) (source : GrammarSource) (directory : Option String) :
    Option Location :=
  (Location.resolve source.fileExists inquiry.hint directory).toOption

/-- What a source answers. -/
def answer (inquiry : Inquiry) (source : Option GrammarSource) (directory : Option String) :
    Except Failure Grammar :=
  match source with
  | none => .error (.resource .noLoader)
  | some source => source.find inquiry.space inquiry.hint directory

/-- What is told of an answer: that there is no grammar. -/
def report (inquiry : Inquiry) (answer : Except Failure Grammar) : Option Diagnostic :=
  match answer with
  | .ok _ => none
  | .error failure =>
    if inquiry.isTold then
      some ⟨.schemaLoad, inquiry.element, [inquiry.hint, failure.message]⟩
    else none

/-- A grammar is for the namespace that the source was asked for. -/
theorem target_of_answer {inquiry : Inquiry} {source : Option GrammarSource}
    {directory : Option String} {grammar : Grammar}
    (found : inquiry.answer source directory = .ok grammar) : grammar.target = inquiry.space := by
  cases source with
  | none => cases found
  | some source => exact GrammarSource.target_of_find found

end Inquiry

namespace Registry

theorem load_of_unknown {registry : Registry} (inquiry : Inquiry)
    (unknown : registry.has inquiry.space = false) (source : Option GrammarSource)
    (directory : Option String) :
    registry.load source inquiry.space inquiry.hint directory =
      (inquiry.answer source directory).map registry.put := by
  unfold load
  rw [unknown]
  cases source <;> rfl

/-- Registering a grammar leaves the registrations of other namespaces as they are. -/
theorem registration?_put_of_ne (registry : Registry) (grammar : Grammar) {space : Option String}
    (apart : space ≠ grammar.target) :
    (registry.put grammar).registration? space = registry.registration? space := by
  have differs : (grammar.target == space) = false := beq_eq_false_iff_ne.mpr (Ne.symm apart)
  simp only [registration?, put, List.find?_cons, differs, List.find?_filter]
  congr 1
  funext present
  by_cases equal : present.grammar.target = space
  · simp [equal, apart]
  · simp [equal]

end Registry

namespace Validator

/-! ### Following hints -/

/-- A hint, as far as it is followed: unless there is a grammar for the namespace or a hint for it has
been followed. -/
def inquiry? (validator : Validator) (element : String) (space : Option String) (hint : String) :
    Option Inquiry :=
  if validator.registry.has space || validator.attempted.contains space then none
  else some ⟨element, space, hint, validator.isValidating⟩

/-- The hints that are followed out of some on one start tag. -/
def inquire (validator : Validator) (element : String) :
    List (Option String × String) → List Inquiry
  | [] => []
  | (space, hint) :: rest =>
    (validator.inquiry? element space hint).toList ++
      (validator.followHint element space hint).1.inquire element rest

/-- The hints that are followed at an event. -/
def inquiriesAt (validator : Validator) : Event → List Inquiry
  | .startElement name attributes =>
    if (validator.deeper.checkLimits attributes).isOk && !validator.isSkipping &&
        validator.configuration.followsHints then
      validator.entered.beginRoot.inquire name.raw (hints attributes)
    else []
  | _ => []

/-- The hints that are followed along some events. -/
def inquiries (validator : Validator) : List Event → List Inquiry
  | [] => []
  | event :: rest =>
    validator.inquiriesAt event ++ (validator.step event).validator.inquiries rest

/-- What the source of a validator answers. -/
def answer (validator : Validator) (inquiry : Inquiry) : Except Failure Grammar :=
  inquiry.answer validator.source validator.configuration.directory

/-- The grammars that a validator gets, in order. -/
def answers (validator : Validator) (asked : List Inquiry) : List Grammar :=
  asked.filterMap fun inquiry => (validator.answer inquiry).toOption

/-- What a validator tells of the answers, in order. -/
def reports (validator : Validator) (asked : List Inquiry) : List Diagnostic :=
  asked.filterMap fun inquiry => inquiry.report (validator.answer inquiry)

/-- A validator behind a part of a document in which some hints are followed. -/
structure Asks (validator behind : Validator) (asked : List Inquiry) : Prop where
  source : behind.source = validator.source
  configuration : behind.configuration = validator.configuration
  registry : behind.registry = (validator.answers asked).foldl Registry.put validator.registry
  attempted : behind.attempted = (asked.map Inquiry.space).reverse ++ validator.attempted
  keeps : ∀ space registration, validator.registry.registration? space = some registration →
    behind.registry.registration? space = some registration
  unknown : ∀ inquiry ∈ asked, validator.registry.has inquiry.space = false
  untried : ∀ inquiry ∈ asked, inquiry.space ∉ validator.attempted
  once : (asked.map Inquiry.space).Nodup

namespace Asks

variable {validator between behind : Validator} {first second : List Inquiry}

/-- Where no hint is followed nothing is learned. -/
theorem nothing (source : behind.source = validator.source)
    (configuration : behind.configuration = validator.configuration)
    (registry : behind.registry = validator.registry)
    (attempted : behind.attempted = validator.attempted) : validator.Asks behind [] :=
  ⟨source, configuration, registry, attempted, fun _ _ known => registry ▸ known, nofun, nofun,
    .nil⟩

theorem answer_eq (asks : validator.Asks between first) : between.answer = validator.answer := by
  funext inquiry
  rw [answer, answer, asks.source, asks.configuration]

theorem reports_append (asks : validator.Asks between first) :
    validator.reports (first ++ second) = validator.reports first ++ between.reports second := by
  rw [reports, reports, reports, asks.answer_eq, List.filterMap_append]

theorem has (asks : validator.Asks between first) {space : Option String}
    (known : validator.registry.has space = true) : between.registry.has space = true := by
  obtain ⟨registration, found⟩ := Option.isSome_iff_exists.mp known
  exact Option.isSome_iff_exists.mpr ⟨registration, asks.keeps space registration found⟩

theorem trans (asks : validator.Asks between first) (further : between.Asks behind second) :
    validator.Asks behind (first ++ second) where
  source := further.source.trans asks.source
  configuration := further.configuration.trans asks.configuration
  registry := by
    rw [further.registry, asks.registry, answers, answers, answers, asks.answer_eq,
      List.filterMap_append, List.foldl_append]
  attempted := by
    rw [further.attempted, asks.attempted, List.map_append, List.reverse_append, List.append_assoc]
  keeps space registration known := further.keeps _ _ (asks.keeps _ _ known)
  unknown inquiry member := by
    rcases List.mem_append.mp member with here | later
    · exact asks.unknown inquiry here
    · have still := further.unknown inquiry later
      by_contra known
      rw [asks.has (Bool.not_eq_false _ ▸ known)] at still
      cases still
  untried inquiry member := by
    rcases List.mem_append.mp member with here | later
    · exact asks.untried inquiry here
    · have still := further.untried inquiry later
      rw [asks.attempted] at still
      exact fun tried => still (List.mem_append_right _ tried)
  once := by
    rw [List.map_append]
    refine List.nodup_append'.mpr ⟨asks.once, further.once, fun space here later => ?_⟩
    obtain ⟨inquiry, member, rfl⟩ := List.mem_map.mp later
    refine further.untried inquiry member ?_
    rw [asks.attempted]
    exact List.mem_append_left _ (List.mem_reverse.mpr here)

end Asks

theorem answers_singleton (validator : Validator) (inquiry : Inquiry) :
    validator.answers [inquiry] = (validator.answer inquiry).toOption.toList := by
  cases found : validator.answer inquiry <;> simp [answers, found, Except.toOption]

theorem reports_singleton (validator : Validator) (inquiry : Inquiry) :
    validator.reports [inquiry] = (inquiry.report (validator.answer inquiry)).toList := by
  cases told : inquiry.report (validator.answer inquiry) <;> simp [reports, told]

/-- A hint that is followed: the grammar is added if there is one, and else it is told that there is
none. -/
theorem followHint_asks (validator : Validator) (element : String) (space : Option String)
    (hint : String) :
    let asked := (validator.inquiry? element space hint).toList
    let followed := validator.followHint element space hint
    validator.Asks followed.1 asked ∧
      told validator.isValidating followed.2 = validator.reports asked := by
  by_cases known : (validator.registry.has space || validator.attempted.contains space) = true
  · rw [inquiry?, if_pos known, followHint, if_pos known]
    exact ⟨.nothing rfl rfl rfl rfl, told_nil _⟩
  · let inquiry : Inquiry := ⟨element, space, hint, validator.isValidating⟩
    obtain ⟨unknown, untried⟩ :
        validator.registry.has space = false ∧ space ∉ validator.attempted := by
      simpa using known
    have loaded : validator.registry.load validator.source space hint
        validator.configuration.directory =
          (validator.answer inquiry).map validator.registry.put :=
      Registry.load_of_unknown inquiry unknown _ _
    rw [inquiry?, if_neg known, Option.toList_some]
    cases found : validator.answer inquiry with
    | error failure =>
      have followed : validator.followHint element space hint =
          ({ validator with attempted := space :: validator.attempted },
            [⟨.schemaLoad, element, [hint, failure.message]⟩]) := by
        rw [followHint, if_neg known]
        dsimp only
        rw [loaded, found]
        rfl
      rw [followed]
      refine ⟨⟨rfl, rfl, ?_, rfl, fun _ _ same => same, ?_, ?_, List.nodup_singleton _⟩, ?_⟩
      · rw [answers_singleton, found]
        rfl
      · simpa using unknown
      · simpa using untried
      · rw [reports_singleton, found]
        show told validator.isValidating _ = (if validator.isValidating then some _ else none).toList
        unfold told
        split <;> rfl
    | ok grammar =>
      have target : grammar.target = space := Inquiry.target_of_answer found
      have followed : validator.followHint element space hint =
          ({ validator with
            attempted := space :: validator.attempted
            registry := validator.registry.put grammar }, []) := by
        rw [followHint, if_neg known]
        dsimp only
        rw [loaded, found]
        rfl
      rw [followed]
      refine ⟨⟨rfl, rfl, ?_, rfl, fun other registration same => ?_, ?_, ?_,
        List.nodup_singleton _⟩, ?_⟩
      · rw [answers_singleton, found]
        rfl
      · have apart : other ≠ grammar.target := by
          rintro rfl
          rw [Registry.has, ← target, same] at unknown
          cases unknown
        exact (validator.registry.registration?_put_of_ne grammar apart).trans same
      · simpa using unknown
      · simpa using untried
      · rw [reports_singleton, found]
        exact told_nil _

theorem told_append (isValidating : Bool) (first second : List Diagnostic) :
    told isValidating (first ++ second) = told isValidating first ++ told isValidating second := by
  cases isValidating <;> rfl

theorem followHints_asks (validator : Validator) (element : String)
    (hints : List (Option String × String)) :
    let asked := validator.inquire element hints
    let followed := validator.followHints element hints
    validator.Asks followed.1 asked ∧
      told validator.isValidating followed.2 = validator.reports asked := by
  induction hints generalizing validator with
  | nil => exact ⟨.nothing rfl rfl rfl rfl, told_nil _⟩
  | cons hint rest ofRest =>
    obtain ⟨space, hint⟩ := hint
    obtain ⟨first, tells⟩ := validator.followHint_asks element space hint
    obtain ⟨further, tellsMore⟩ := ofRest (validator.followHint element space hint).1
    obtain ⟨_, _, same⟩ := validator.followHint_eq element space hint
    have isValidating : (validator.followHint element space hint).1.isValidating =
        validator.isValidating := by
      rw [same]
    rw [isValidating] at tellsMore
    refine ⟨first.trans further, ?_⟩
    rw [inquire, first.reports_append, ← tells, ← tellsMore, ← told_append]
    rfl

/-! ### Events -/

/-- What is told of hints at an event, and what the validator learns there. -/
def Learns (validator : Validator) (outcome : Outcome) (asked : List Inquiry) : Prop :=
  validator.Asks outcome.validator asked ∧
    underRule .schemaLoad outcome.diagnostics = validator.reports asked

theorem loadHinted_asks (validator : Validator) (element : String) (attributes : Attributes) :
    let asked := if validator.configuration.followsHints then
      validator.inquire element (hints attributes) else []
    let loaded := validator.loadHinted element attributes
    validator.Asks loaded.1 asked ∧
      told validator.isValidating loaded.2 = validator.reports asked := by
  intro asked loaded
  unfold asked loaded loadHinted
  split
  · exact validator.followHints_asks element (hints attributes)
  · exact ⟨.nothing rfl rfl rfl rfl, told_nil _⟩

/-- The rules of a start tag, those of hints aside. -/
theorem receive_under (validator : Validator) (name : QualifiedName) (attributes : Attributes) :
    Under (.invalidChild :: Rule.ofOpening) (validator.receive name attributes).2.2 := by
  obtain ⟨⟨found, opening, same⟩, -⟩ := validator.receive_shape name attributes
  rw [same]
  exact ((rejection_under ..).mono (by decide)).append (opening.mono (by decide))

theorem isOk_of_passes {validator : Validator} {name : QualifiedName} {attributes : Attributes}
    (passes : (validator.start name attributes).failure = none) :
    (validator.deeper.checkLimits attributes).isOk = true := by
  unfold start at passes
  dsimp only at passes
  split at passes
  · cases passes
  · rename_i within
    rw [deeper, within]
    rfl

/-- A start tag teaches what the hints on it lead to, unless it is inside of a subtree that is passed
through. -/
theorem start_learns {validator : Validator} {name : QualifiedName} {attributes : Attributes}
    (passes : (validator.start name attributes).failure = none) :
    validator.Learns (validator.start name attributes)
      (validator.inquiriesAt (.startElement name attributes)) := by
  have within := isOk_of_passes passes
  rw [validator.start_of_passes name attributes passes]
  unfold inquiriesAt
  dsimp only
  rw [within, Bool.true_and]
  cases skipping : validator.isSkipping with
  | true => exact ⟨.nothing rfl rfl rfl rfl, rfl⟩
  | false =>
    let begun := validator.entered.beginRoot
    let loaded := (begun.loadHinted name.raw attributes).1
    let prepared := validator.prepared name attributes
    obtain ⟨_, begins, -⟩ := validator.entered.beginRoot_eq
    obtain ⟨_, decided, -⟩ := loaded.decideDynamic_eq name.space
    obtain ⟨_, _, _, _, received⟩ := prepared.receive_eq name attributes
    have before : validator.Asks begun [] := by
      unfold begun
      rw [begins]
      exact .nothing rfl rfl rfl rfl
    have after : loaded.Asks (prepared.receive name attributes).1 [] := by
      have same : prepared = { loaded with isValidating := prepared.isValidating } := by
        unfold prepared Validator.prepared
        rw [decided]
      rw [received, same]
      exact .nothing rfl rfl rfl rfl
    obtain ⟨asks, tells⟩ := begun.loadHinted_asks name.raw attributes
    have follows : begun.configuration = validator.configuration := before.configuration
    rw [follows] at asks tells
    have all : validator.Asks (prepared.receive name attributes).1
        (if validator.configuration.followsHints then begun.inquire name.raw (hints attributes)
          else []) := by
      simpa using (before.trans asks).trans after
    refine ⟨all, ?_⟩
    show underRule .schemaLoad (told begun.isValidating (begun.loadHinted name.raw attributes).2 ++
      told prepared.isValidating (prepared.receive name attributes).2.2) = _
    have hints : Under [.schemaLoad]
        (told begun.isValidating (begun.loadHinted name.raw attributes).2) :=
      told_under (begun.loadHinted_under name.raw attributes) _
    have others : Under (.invalidChild :: Rule.ofOpening)
        (told prepared.isValidating (prepared.receive name attributes).2.2) :=
      told_under (prepared.receive_under name attributes) _
    rw [underRule_append, hints.underRule_eq_self, others.underRule_eq_nil (by decide),
      List.append_nil, tells, reports, before.answer_eq]
    rfl

/-- The rules of an end tag. -/
theorem close_under (validator : Validator) :
    Under ([.nilWithContent, .incompleteContent, .invalidDefaultForType] ++ Rule.ofContent ++
      Rule.ofFixedValues ++ Rule.ofClosing) validator.close.2.2 := by
  unfold close
  split
  · exact .nil _
  · exact .nil _
  · rename_i frame outer _ _
    obtain ⟨-, -, others, closing, found⟩ := validator.closeElement_shape frame outer
    rw [found]
    exact ((validator.assessContent_under frame).mono (by decide)).append (closing.mono (by decide))

/-- An end tag teaches nothing. -/
theorem finish_learns (validator : Validator) (ending : QualifiedName) :
    validator.Learns (validator.finish ending) [] := by
  obtain ⟨_, _, _, _, closed⟩ := validator.close_eq
  refine ⟨?_, (told_under validator.close_under _).underRule_eq_nil (by decide)⟩
  show validator.Asks validator.close.1.leaveScope []
  rw [closed]
  exact .nothing rfl rfl rfl rfl

/-- An event teaches what the hints on it lead to. -/
theorem step_learns {validator : Validator} {event : Event} (within : event.isWithin = true)
    (passes : (validator.step event).failure = none) :
    validator.Learns (validator.step event) (validator.inquiriesAt event) := by
  cases event with
  | startDocument => cases within
  | endDocument => cases within
  | startElement name attributes => exact start_learns passes
  | endElement ending => exact validator.finish_learns ending
  | characters text =>
    refine ⟨?_, rfl⟩
    show validator.Asks (validator.addText text) []
    unfold addText
    split <;> exact .nothing rfl rfl rfl rfl
  | _ => exact ⟨.nothing rfl rfl rfl rfl, rfl⟩

/-- A part of a document teaches what the hints in it lead to. -/
theorem run_learns {validator : Validator} {events : List Event}
    (within : ∀ event ∈ events, event.isWithin = true)
    (runs : (validator.run events).failure = none) :
    validator.Learns (validator.run events) (validator.inquiries events) := by
  induction events generalizing validator with
  | nil => exact ⟨.nothing rfl rfl rfl rfl, rfl⟩
  | cons event rest ofRest =>
    obtain ⟨here, further⟩ := List.forall_mem_cons.mp within
    obtain ⟨passes, othersRun, -⟩ := run_cons_of_runs runs
    obtain ⟨asks, tells⟩ := step_learns here passes
    obtain ⟨asksLater, tellsLater⟩ := ofRest further othersRun
    rw [run_cons_of_passes passes, inquiries]
    refine ⟨asks.trans asksLater, ?_⟩
    rw [underRule_append, tells, tellsLater, asks.reports_append]

/-! ### What outlasts a document -/

/-- The configuration, the source of grammars and every known grammar are still the same. -/
structure Outlasts (validator behind : Validator) : Prop where
  source : behind.source = validator.source
  configuration : behind.configuration = validator.configuration
  keeps : ∀ space registration, validator.registry.registration? space = some registration →
    behind.registry.registration? space = some registration

theorem Outlasts.trans {validator between behind : Validator} (first : validator.Outlasts between)
    (second : between.Outlasts behind) : validator.Outlasts behind where
  source := second.source.trans first.source
  configuration := second.configuration.trans first.configuration
  keeps _ _ known := second.keeps _ _ (first.keeps _ _ known)

theorem Asks.outlasts {validator behind : Validator} {asked : List Inquiry}
    (asks : validator.Asks behind asked) : validator.Outlasts behind :=
  ⟨asks.source, asks.configuration, asks.keeps⟩

/-- An event that fails has only counted depth. -/
theorem step_of_failure {validator : Validator} {event : Event}
    (fails : (validator.step event).failure ≠ none) :
    (validator.step event).validator = validator.deeper := by
  cases event with
  | startElement name attributes =>
    rcases validator.start_cases name attributes with ⟨-, deeper, -⟩ | ⟨-, skips, -⟩ | ⟨-, passes, -⟩
    · exact deeper
    · exact absurd (congrArg Outcome.failure skips) fails
    · exact absurd passes fails
  | _ => exact absurd rfl fails

theorem step_outlasts (validator : Validator) (event : Event) :
    validator.Outlasts (validator.step event).validator := by
  by_cases passes : (validator.step event).failure = none
  · by_cases within : event.isWithin = true
    · exact (step_learns within passes).1.outlasts
    · cases event with
      | startDocument | endDocument => exact ⟨rfl, rfl, fun _ _ known => known⟩
      | _ => exact absurd rfl within
  · rw [step_of_failure passes]
    exact ⟨rfl, rfl, fun _ _ known => known⟩

end Validator

end SchemaAssessment

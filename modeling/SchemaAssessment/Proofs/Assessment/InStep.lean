/-
The engine of identity constraints in step with the open elements. Where findings are
told, the engine holds what the start tags of the open elements that are assessed have
brought, be there a subtree that is passed through inside of them or not; where findings
are not told it is idle. This lasts as long as no event fails and no document ends
inside of an element. And in whatever state a validator is, it never tells of a field
that a constraint does not have.
-/

import SchemaAssessment.Proofs.Assessment.Reachable
import SchemaAssessment.Proofs.Assessment.Restoration
import SchemaAssessment.Proofs.Identity.OpenElements

namespace SchemaAssessment

/-- A start tag is that of an open element. -/
structure Frame.StartedBy (frame : Frame) (event : ElementStart) : Prop where
  name : event.name = frame.name.expanded
  shown : event.shown = frame.raw
  declaration : event.declaration = frame.declaration.map KnownElement.declaration

/-- An open element is the same as another, however much of it has been seen. -/
structure Frame.IsSame (frame other : Frame) : Prop where
  name : frame.name = other.name
  declaration : frame.declaration = other.declaration
  type : frame.type = other.type

theorem Frame.StartedBy.of_isSame {frame other : Frame} {event : ElementStart}
    (started : frame.StartedBy event) (same : other.IsSame frame) : other.StartedBy event := by
  obtain ⟨name, shown, declaration⟩ := started
  refine ⟨?_, ?_, ?_⟩
  · rw [name, same.name]
  · rw [shown, Frame.raw, Frame.raw, same.name]
  · rw [declaration, same.declaration]

theorem Frame.isSame_addText (frame : Frame) (text : String) : (frame.addText text).IsSame frame :=
  ⟨rfl, rfl, rfl⟩

theorem Frame.isSame_takeChild (frame : Frame) (registry : Registry) (child : ExpandedName) :
    (frame.takeChild registry child).1.IsSame frame := by
  obtain ⟨content, taken, -⟩ := frame.takeChild_eq registry child
  rw [taken]
  exact ⟨rfl, rfl, rfl⟩

/-- The open elements that are assessed. An element whose subtree is passed through has no type. -/
def assessedAmong (frames : List Frame) : List Frame := frames.filter fun frame => frame.type.isSome

/-- The engine holds what some start tags have brought. They are those of the open elements that are
assessed if findings are told, and there are none otherwise. All open elements are assessed but
the innermost one where a subtree is passed through. -/
structure InStep (identities : IdentityEngine) (isValidating isSkipping : Bool)
    (frames : List Frame) (opened : List ElementStart) : Prop where
  follows : identities.Follows opened
  shown : List.Forall₂ Frame.StartedBy (if isValidating then assessedAmong frames else []) opened
  assessed : assessedAmong frames = if isSkipping then frames.tail else frames

namespace InStep

variable {identities : IdentityEngine} {isValidating isSkipping : Bool} {frames : List Frame}
  {opened : List ElementStart}

theorem nothing (isValidating isSkipping : Bool) :
    InStep .idle isValidating isSkipping [] [] := by
  refine ⟨IdentityEngine.follows_idle, ?_, (ite_self _).symm⟩
  have none : (if isValidating then assessedAmong [] else []) = [] := ite_self _
  rw [none]
  exact .nil

/-- As long as no element is open, it may be decided anew whether findings are told. -/
theorem decide (inStep : InStep identities isValidating isSkipping frames opened)
    {decided : Bool} (below : frames ≠ [] → decided = isValidating) :
    InStep identities decided isSkipping frames opened := by
  by_cases none : frames = []
  · have either (told : Bool) : (if told then assessedAmong frames else []) = [] := by
      rw [none]
      exact ite_self _
    have shown := inStep.shown
    rw [either] at shown
    exact ⟨inStep.follows, (either decided).symm ▸ shown, inStep.assessed⟩
  · rw [below none]
    exact inStep

/-- The innermost open element has seen more. -/
theorem modify (inStep : InStep identities isValidating false frames opened)
    {change : Frame → Frame} (same : ∀ frame, (change frame).IsSame frame) :
    InStep identities isValidating false (frames.modifyHead change) opened := by
  cases frames with
  | nil => exact inStep
  | cons frame outer =>
    obtain ⟨follows, shown, assessed⟩ := inStep
    have typed : assessedAmong (change frame :: outer) = change frame :: outer := by
      have all := List.filter_eq_self.mp assessed
      refine List.filter_eq_self.mpr (List.forall_mem_cons.mpr ⟨?_, ?_⟩)
      · rw [(same frame).type]
        exact all frame List.mem_cons_self
      · exact fun other member => all other (List.mem_cons_of_mem _ member)
    refine ⟨follows, ?_, typed⟩
    rw [List.modifyHead_cons, typed]
    rw [assessed] at shown
    cases isValidating with
    | false => exact shown
    | true =>
      cases shown with
      | cons started others => exact .cons (started.of_isSame (same frame)) others

/-- An element is opened that is assessed. Its start tag is shown if findings are told. -/
theorem push (inStep : InStep identities isValidating false frames opened) (frame : Frame)
    (event : ElementStart) (typed : frame.type.isSome = true) (started : frame.StartedBy event) :
    InStep (if isValidating then (identities.start event).1 else identities) isValidating false
      (frame :: frames) (if isValidating then event :: opened else opened) := by
  obtain ⟨follows, shown, assessed⟩ := inStep
  have all : assessedAmong (frame :: frames) = frame :: frames :=
    List.filter_eq_self.mpr (List.forall_mem_cons.mpr ⟨typed, List.filter_eq_self.mp assessed⟩)
  rw [assessed] at shown
  refine ⟨?_, ?_, all⟩
  · cases isValidating with
    | false => exact follows
    | true => exact follows.start event
  · rw [all]
    cases isValidating with
    | false => exact shown
    | true => exact .cons started shown

/-- An element that is assessed ends. Its end tag is shown if findings are told. -/
theorem pop {frame : Frame} {outer : List Frame}
    (inStep : InStep identities isValidating false (frame :: outer) opened) (value : Option Value)
    (shown : String) :
    InStep (if isValidating then (identities.finish value shown).1 else identities) isValidating
      false outer opened.tail := by
  obtain ⟨follows, started, assessed⟩ := inStep
  have all : assessedAmong outer = outer := by
    have typed := List.filter_eq_self.mp assessed
    exact List.filter_eq_self.mpr fun other member => typed other (List.mem_cons_of_mem _ member)
  rw [assessed] at started
  refine ⟨?_, ?_, all⟩
  · cases isValidating with
    | false =>
      obtain rfl := List.forall₂_nil_left_iff.mp started
      exact follows
    | true =>
      cases started with
      | cons first others => exact follows.finish value shown
  · rw [all]
    cases isValidating with
    | false =>
      obtain rfl := List.forall₂_nil_left_iff.mp started
      exact .nil
    | true =>
      cases started with
      | cons first others => exact others

/-- An element is opened whose subtree is passed through. -/
theorem skip (inStep : InStep identities isValidating false frames opened) {frame : Frame}
    (untyped : frame.type = none) :
    InStep identities isValidating true (frame :: frames) opened := by
  obtain ⟨follows, shown, assessed⟩ := inStep
  have same : assessedAmong (frame :: frames) = assessedAmong frames :=
    List.filter_cons_of_neg (by rw [untyped]; exact Bool.false_ne_true)
  exact ⟨follows, same ▸ shown, same.trans assessed⟩

/-- The element ends whose subtree is passed through. -/
theorem leave (inStep : InStep identities isValidating true frames opened) :
    InStep identities isValidating false frames.tail opened := by
  obtain ⟨follows, shown, assessed⟩ := inStep
  have tail : assessedAmong frames = frames.tail := assessed
  have again : assessedAmong frames.tail = frames.tail := by
    rw [← tail]
    exact List.filter_eq_self.mpr fun frame member => (List.mem_filter.mp member).2
  rw [tail, ← again] at shown
  exact ⟨follows, shown, again⟩

end InStep

namespace Validator

/-- The engine of identity constraints is in step with the open elements. -/
def IsInStep (validator : Validator) : Prop :=
  ∃ opened, InStep validator.identities validator.isValidating validator.isSkipping
    validator.frames opened

/-- No element is open at the depth of none. -/
theorem IsAligned.frames_eq_nil {validator : Validator} (aligned : validator.IsAligned)
    (closed : validator.depth = 0) : validator.frames = [] := by
  refine List.eq_nil_of_length_eq_zero ?_
  rcases Option.eq_none_or_eq_some validator.skipDepth with outside | ⟨depth, inside⟩
  · exact (aligned.outside outside).trans closed
  · obtain ⟨length, above⟩ := aligned.inside depth inside
    rw [closed] at above
    exact length.trans (Nat.le_zero.mp above)

namespace IsInStep

variable {validator : Validator}

/-! ### Start tags -/

theorem receive (inStep : validator.IsInStep) (outside : validator.isSkipping = false)
    (name : QualifiedName) (attributes : Attributes) :
    (validator.receive name attributes).1.IsInStep := by
  obtain ⟨opened, inStep⟩ := inStep
  rw [outside] at inStep
  let taking : Validator :=
    { validator with frames := validator.framesTaking validator.registry name.expanded }
  have offered : (validator.offer name.expanded).1 = taking :=
    congrArg Prod.fst (validator.offer_eq name.expanded)
  have taken : InStep taking.identities taking.isValidating false taking.frames opened :=
    inStep.modify fun frame => frame.isSame_takeChild _ _
  rcases validator.receive_cases name attributes with
    ⟨-, skipped, -⟩ | ⟨declaration, type, before, -, typed, -⟩
  · rw [skipped, offered]
    exact ⟨opened, taken.skip rfl⟩
  · rw [typed, offered]
    let event := taking.typedStart name attributes declaration type
    obtain ⟨⟨identifiers, identities, state⟩, -⟩ :=
      taking.openTyped_shape name attributes declaration type
    have shown := (taking.openTyped_identities name attributes declaration type).1
    rw [state] at shown ⊢
    have pushed := taken.push (taking.openedFrame name attributes declaration type) event rfl
      ⟨rfl, rfl, rfl⟩
    refine ⟨if taking.isValidating then event :: opened else opened, ?_⟩
    rw [shown, isSkipping, skipDepth_of_isSkipping outside]
    exact pushed

theorem start (inStep : validator.IsInStep) {name : QualifiedName} {attributes : Attributes}
    (passes : (validator.start name attributes).failure = none) :
    (validator.start name attributes).validator.IsInStep := by
  rcases validator.start_cases name attributes with
    ⟨fails, -⟩ | ⟨-, passed, -⟩ | ⟨outside, -, behind, -⟩
  · exact absurd passes fails
  · rw [passed]
    exact inStep
  · rw [behind]
    have keeps := validator.prepared_keeps name attributes
    obtain ⟨opened, inStep⟩ := inStep
    have still : (validator.prepared name attributes).isSkipping = validator.isSkipping :=
      congrArg Option.isSome keeps.skipDepth
    refine receive ⟨opened, ?_⟩ (still.trans outside) name attributes
    rw [keeps.identities, keeps.frames, still]
    exact inStep.decide keeps.isValidating

/-! ### End tags -/

theorem finish (inStep : validator.IsInStep) (ending : QualifiedName) :
    (validator.finish ending).validator.IsInStep := by
  obtain ⟨opened, inStep⟩ := inStep
  rcases (validator.finish_cases ending).2 with
    ⟨depth, inside, behind, -⟩ | ⟨-, -, behind, -⟩ |
      ⟨frame, outer, identifiers, before, after, outside, frames, behind, -⟩
  · rw [behind, leaveSkip]
    split
    · rw [isSkipping, inside] at inStep
      exact ⟨opened, inStep.leave⟩
    · exact ⟨opened, inStep⟩
  · rw [behind]
    exact ⟨opened, inStep⟩
  · rw [isSkipping, outside, frames] at inStep
    let value := identityValue frame (validator.assessContent frame).1
    obtain ⟨⟨identities, state⟩, -⟩ :=
      finishIdentities_shape { validator with identifiers } value frame.raw
    have shown := (finishIdentities_eq { validator with identifiers } value frame.raw).1
    rw [state] at shown
    rw [behind, state]
    refine ⟨opened.tail, ?_⟩
    have popped := inStep.pop value frame.raw
    rw [← shown] at popped
    show InStep identities validator.isValidating validator.skipDepth.isSome outer opened.tail
    rw [outside]
    exact popped

/-! ### Any event -/

theorem addText (inStep : validator.IsInStep) (text : String) :
    (validator.addText text).IsInStep := by
  unfold Validator.addText
  split
  · rename_i frame outer outside frames
    obtain ⟨opened, inStep⟩ := inStep
    rw [isSkipping, outside, frames] at inStep
    refine ⟨opened, ?_⟩
    show InStep _ _ validator.skipDepth.isSome _ opened
    rw [outside]
    exact inStep.modify fun frame => frame.isSame_addText text
  · exact inStep

/-- Where no element is open, an idle engine is in step. -/
theorem release (aligned : validator.IsAligned) (closed : validator.depth = 0) :
    validator.release.IsInStep := by
  refine ⟨[], ?_⟩
  show InStep .idle validator.isValidating validator.isSkipping validator.frames []
  rw [aligned.frames_eq_nil closed]
  exact .nothing _ _

/-- An event keeps the engine in step if it does not fail, and if no element is open where a
document ends. -/
theorem step (inStep : validator.IsInStep) (aligned : validator.IsAligned) {event : Event}
    (passes : (validator.step event).failure = none)
    (closed : event = .endDocument → validator.depth = 0) :
    (validator.step event).validator.IsInStep := by
  cases event with
  | startDocument => exact ⟨[], .nothing _ _⟩
  | startElement name attributes => exact inStep.start passes
  | endElement ending => exact inStep.finish ending
  | characters text => exact inStep.addText text
  | endDocument => exact release aligned (closed rfl)
  | _ => exact inStep

end IsInStep

/-! ### Orderly states -/

/-- A state that a validator comes to while no event fails and no document ends inside of an
element. -/
inductive Orderly : Validator → Prop where
  | initial (registry : Registry) (source : Option GrammarSource)
      (configuration : Configuration) : Orderly (.initial registry source configuration)
  | step {validator : Validator} (orderly : validator.Orderly) {event : Event}
      (passes : (validator.step event).failure = none)
      (closed : event = .endDocument → validator.depth = 0) :
      Orderly (validator.step event).validator
  | setFeature {validator changed : Validator} (orderly : validator.Orderly) {name : String}
      {value : Bool} (done : validator.setFeature name value = .ok changed) : Orderly changed
  | addGrammar {validator : Validator} (orderly : validator.Orderly) (grammar : Grammar) :
      Orderly (validator.addGrammar grammar)

namespace Orderly

variable {validator : Validator}

/-- The events of a document are orderly up to its end. -/
theorem run (orderly : validator.Orderly) {events : List Event}
    (within : .endDocument ∉ events) (runs : (validator.run events).failure = none) :
    (validator.run events).validator.Orderly := by
  induction events generalizing validator with
  | nil => exact orderly
  | cons event rest ofRest =>
    obtain ⟨passes, further, behind⟩ := run_cons_of_runs runs
    obtain ⟨here, later⟩ := not_or.mp (mt List.mem_cons.mpr within)
    rw [behind]
    exact ofRest (orderly.step passes fun same => absurd same.symm here) later further

/-- In an orderly state the open elements number the depth, and the engine is in step with them. -/
theorem inStep (orderly : validator.Orderly) : validator.IsAligned ∧ validator.IsInStep := by
  induction orderly with
  | initial registry source configuration =>
    exact ⟨(isIdle_initial registry source configuration).aligned, [], .nothing _ _⟩
  | step orderly passes closed ofBefore =>
    obtain ⟨aligned, inStep⟩ := ofBefore
    exact ⟨aligned.step passes, inStep.step aligned passes closed⟩
  | setFeature orderly done ofBefore =>
    obtain ⟨configuration, rfl⟩ := eq_of_setFeature done
    exact ⟨⟨ofBefore.1.outside, ofBefore.1.inside⟩, ofBefore.2⟩
  | addGrammar orderly grammar ofBefore =>
    exact ⟨⟨ofBefore.1.outside, ofBefore.1.inside⟩, ofBefore.2⟩

end Orderly

/-! ### Fields -/

/-- In any state, an event has the engine hold what some start tags have brought, and tells of no
field that a constraint does not have. -/
theorem step_follows {validator : Validator} {opened : List ElementStart}
    (follows : validator.identities.Follows opened) (event : Event) :
    (∃ behind, (validator.step event).validator.identities.Follows behind) ∧
      ∀ finding ∈ (validator.step event).diagnostics, finding.rule ≠ .unknownField := by
  by_cases within : event.isWithin = true
  · obtain ⟨identities, found⟩ := validator.step_identities within
    obtain ⟨behind, under⟩ := follows.readAll (validator.shown? event).toList
    rw [identities]
    refine ⟨⟨_, behind⟩, fun finding member unknown => ?_⟩
    have told : finding ∈ ofIdentity (validator.step event).diagnostics :=
      List.mem_filter.mpr ⟨member, by rw [unknown]; rfl⟩
    rw [found] at told
    have listed := under.told finding (List.mem_filter.mp told).1
    rw [unknown] at listed
    exact absurd listed (by decide)
  · cases event with
    | startDocument => exact ⟨⟨[], IdentityEngine.follows_idle⟩, nofun⟩
    | endDocument => exact ⟨⟨[], IdentityEngine.follows_idle⟩, nofun⟩
    | _ => exact absurd rfl within

theorem Reachable.follows {validator : Validator} (reachable : validator.Reachable) :
    ∃ opened, validator.identities.Follows opened := by
  induction reachable with
  | initial registry source configuration => exact ⟨[], IdentityEngine.follows_idle⟩
  | step reachable event ofBefore =>
    obtain ⟨opened, follows⟩ := ofBefore
    exact (step_follows follows event).1
  | setFeature reachable done ofBefore =>
    obtain ⟨configuration, rfl⟩ := eq_of_setFeature done
    exact ofBefore
  | addGrammar reachable grammar ofBefore => exact ofBefore

/-- No run tells of a field that a constraint does not have. -/
theorem Reachable.knows_fields {validator : Validator} (reachable : validator.Reachable)
    (events : List Event) :
    ∀ finding ∈ (validator.run events).diagnostics, finding.rule ≠ .unknownField := by
  induction events generalizing validator with
  | nil => exact nofun
  | cons event rest ofRest =>
    obtain ⟨opened, follows⟩ := reachable.follows
    have here := (step_follows follows event).2
    rw [Validator.run]
    dsimp only
    split
    · exact here
    · exact List.forall_mem_append.mpr ⟨here, ofRest (reachable.step event)⟩

/-- As long as no event fails and no document ends inside of an element, the engine of identity
constraints is in step with the open elements. Where findings are told, it is as deep as there
are open elements that are assessed, with as many tables put aside, and where they are not it
is idle. Every matcher feeds a store that is there and has been shown the start tags of the
open elements that are assessed, from its context element inward. Behind the root element
nothing is left. And no run at all tells of a field that a constraint does not have. -/
theorem identities_in_step :
    (∀ validator : Validator, validator.Orderly →
      let engine := validator.identities
      let assessed := assessedAmong validator.frames
      validator.IsAligned ∧
        assessed = (if validator.isSkipping then validator.frames.tail else validator.frames) ∧
        (validator.isValidating = true →
          engine.depth = assessed.length ∧ engine.cache.saved.length = assessed.length) ∧
        (validator.isValidating = false → engine.IsIdle) ∧
        (validator.depth = 0 → engine.IsIdle) ∧
        ∃ opened,
          List.Forall₂ Frame.StartedBy (if validator.isValidating then assessed else []) opened ∧
            ∀ active ∈ engine.matchers, active.Watches opened ∧
              ∃ store, engine.cache.stores[active.store]? = some store) ∧
      ∀ validator : Validator, validator.Reachable → ∀ events,
        ∀ finding ∈ (validator.run events).diagnostics, finding.rule ≠ .unknownField := by
  refine ⟨fun validator orderly => ?_, fun validator reachable => reachable.knows_fields⟩
  intro engine assessed
  obtain ⟨aligned, opened, follows, shown, rest⟩ := orderly.inStep
  refine ⟨aligned, rest, fun telling => ?_, fun quiet => ?_, fun closed => ?_, opened, shown,
    fun active member => follows.store member⟩
  · rw [telling] at shown
    have counted : assessed.length = opened.length := shown.length_eq
    rw [counted]
    exact ⟨follows.depth, follows.saved⟩
  · rw [quiet] at shown
    obtain rfl := List.forall₂_nil_left_iff.mp shown
    exact follows.isIdle
  · have none : (if validator.isValidating then assessedAmong validator.frames else []) = [] := by
      rw [aligned.frames_eq_nil closed]
      exact ite_self _
    rw [none] at shown
    obtain rfl := List.forall₂_nil_left_iff.mp shown
    exact follows.isIdle

/-- In a branch, a twig that it does not allow, with a label that is passed through. -/
theorem identities_in_step_twig :
    let events : List Event := [.startDocument, .startElement (plain "tree") [],
      .startElement (plain "branch") [], .startElement (plain "twig") [],
      .startElement (plain "label") []]
    let here := (ofBranches.run events).validator
    let closing : List Event := [.endElement (plain "label"), .endElement (plain "twig"),
      .endElement (plain "branch"), .endElement (plain "tree")]
    let behind := (here.run closing).validator
    here.Orderly ∧ here.depth = 4 ∧
      (assessedAmong here.frames).map Frame.raw = ["branch", "tree"] ∧
      here.identities.depth = 2 ∧ here.identities.matchers.length = 2 ∧
      (∀ active ∈ here.identities.matchers,
        ∃ store, here.identities.cache.stores[active.store]? = some store) ∧
      behind.identities.IsIdle ∧
      ∀ finding ∈ (here.run closing).diagnostics, finding.rule ≠ .unknownField := by
  intro events here closing behind
  have runs : (ofBranches.run events).failure = none := by decide +kernel
  have runsOn : (here.run closing).failure = none := by decide +kernel
  have telling : here.isValidating = true := by decide +kernel
  have open_ : (assessedAmong here.frames).map Frame.raw = ["branch", "tree"] := by decide +kernel
  have orderly : here.Orderly := (Orderly.initial ..).run (by decide) runs
  obtain ⟨inStep, knows⟩ := identities_in_step
  obtain ⟨-, -, deep, -, -, opened, -, watched⟩ := inStep here orderly
  obtain ⟨-, -, -, -, idle, -⟩ := inStep behind (orderly.run (by decide) runsOn)
  refine ⟨orderly, by decide +kernel, open_, ?_, by decide +kernel,
    fun active member => (watched active member).2, idle (by decide +kernel), ?_⟩
  · rw [(deep telling).1, ← List.length_map Frame.raw, open_]
    rfl
  · exact knows here ((Reachable.initial ..).run events) closing

end Validator

end SchemaAssessment

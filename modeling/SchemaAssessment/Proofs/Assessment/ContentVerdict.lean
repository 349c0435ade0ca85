/-
The verdict on the children of an element. The children of an assessed element are told
about as if they were walked through its content model at once: nothing is told if the
walk comes to an end of the content. Else it is told once, of the first child that is not
allowed where it stands, whose subtree is passed through, or of the element that its
content ends too soon.
-/

import SchemaAssessment.Proofs.Assessment.Restoration
import SchemaAssessment.Proofs.Content.Exactness

namespace SchemaAssessment

/-! ### Walks -/

namespace ContentModel

variable {τ α δ : Type} (model : ContentModel τ) (takes : α → τ → Option δ)
  (space : α → Option String)

/-- A walk that does not come through stops at a first child that is not allowed where it stands. -/
theorem exists_of_walk_eq_none {word : List α} {state : ContentState}
    (stops : model.walk takes space word state = none) :
    ∃ earlier child later reached, word = earlier ++ child :: later ∧
      model.walk takes space earlier state = some reached ∧
        model.step (takes child) (space child) reached = none := by
  induction word generalizing state with
  | nil => cases stops
  | cons child rest ofRest =>
    cases steps : model.step (takes child) (space child) state with
    | none => exact ⟨[], child, rest, state, rfl, rfl, steps⟩
    | some next =>
      rw [walk, steps] at stops
      obtain ⟨earlier, other, later, reached, rfl, walks, stuck⟩ := ofRest stops
      refine ⟨child :: earlier, other, later, reached, rfl, ?_, stuck⟩
      rw [walk, steps]
      exact walks

end ContentModel

/-! ### Children on a walk -/

namespace Child

/-- What a term of a content model makes of the child, under the grammars known when it begins. -/
def takes (child : Child) : ElementTerm → Option KnownElement :=
  child.opened.registry.takes child.name.expanded

/-- The namespace of the child. -/
def space (child : Child) : Option String := child.name.expanded.space

/-- What is told when the parent rejects the child. -/
def rejections (child : Child) : List Diagnostic :=
  underRule .invalidChild (child.before.start child.name child.attributes).diagnostics

/-- All that is inside of the child is passed through. -/
def IsPassed (child : Child) : Prop :=
  ∀ seen, seen <+: child.inside.events → (child.opened.run seen).validator.isSkipping = true

end Child

namespace Frame

variable {frame : Frame} {model : ContentModel ElementTerm}

/-- An element whose content is as far as given, and has something to say about children. -/
structure HasContent (frame : Frame) (model : ContentModel ElementTerm)
    (progress : ContentProgress) : Prop where
  content : frame.content = some ⟨model, progress⟩
  isNil : frame.isNil = false

theorem HasContent.takeChild {progress : ContentProgress} (has : frame.HasContent model progress)
    (registry : Registry) (child : ExpandedName) :
    frame.takeChild registry child =
      ({ frame with
          childCount := frame.childCount + 1
          content := some (takeWithin registry child ⟨model, progress⟩).1 },
        (takeWithin registry child ⟨model, progress⟩).2) := by
  unfold Frame.takeChild
  dsimp only
  rw [has.content, has.isNil]

theorem HasContent.addText {progress : ContentProgress} (has : frame.HasContent model progress)
    (text : String) : (frame.addText text).HasContent model progress :=
  ⟨has.content, has.isNil⟩

end Frame

/-- A child has been rejected. -/
def ContentProgress.hasFailed : ContentProgress → Bool
  | .valid _ => false
  | .firstError | .subsequentError => true

namespace Frame

variable {frame : Frame} {model : ContentModel ElementTerm}

theorem takeWithin_of_hasFailed {progress : ContentProgress} (failed : progress.hasFailed = true)
    (registry : Registry) (child : ExpandedName) :
    takeWithin registry child ⟨model, progress⟩ = (⟨model, .subsequentError⟩, .byName) := by
  cases progress with
  | valid state => cases failed
  | firstError => rfl
  | subsequentError => rfl

theorem takeWithin_of_stuck {child : Child} {state : ContentState}
    (stuck : model.step child.takes child.space state = none) :
    takeWithin child.opened.registry child.name.expanded ⟨model, .valid state⟩ =
      (⟨model, .firstError⟩, .rejected (OpenContent.expectation model state)) := by
  unfold Child.takes Child.space at stuck
  unfold takeWithin
  dsimp only
  rw [stuck]

theorem takeWithin_of_step {child : Child} {state : ContentState}
    {next : ContentState × Taken KnownElement}
    (steps : model.step child.takes child.space state = some next) :
    takeWithin child.opened.registry child.name.expanded ⟨model, .valid state⟩ =
      (⟨model, .valid next.1⟩, .taken next.2) := by
  unfold Child.takes Child.space at steps
  unfold takeWithin
  dsimp only
  rw [steps]

/-- Children that are allowed where they stand lead on as the walk does. -/
theorem HasContent.fill {state reached : ContentState} {children : List Child}
    (has : frame.HasContent model (.valid state))
    (walks : model.walk Child.takes Child.space children state = some reached) (text : String) :
    (frame.fill children text).HasContent model (.valid reached) := by
  induction children generalizing frame state with
  | nil =>
    obtain rfl := Option.some.inj walks
    exact has.addText text
  | cons child rest ofRest =>
    obtain ⟨next, steps, walks⟩ := Option.bind_eq_some_iff.mp walks
    refine ofRest ?_ walks
    rw [take, has.takeChild, takeWithin_of_step steps]
    exact ⟨rfl, has.isNil⟩

/-- Once a child has been rejected, it stays so. -/
theorem HasContent.fill_of_hasFailed {progress : ContentProgress}
    (has : frame.HasContent model progress) (failed : progress.hasFailed = true)
    (children : List Child) (text : String) :
    ∃ later, later.hasFailed = true ∧ (frame.fill children text).HasContent model later := by
  induction children generalizing frame progress with
  | nil => exact ⟨progress, failed, has.addText text⟩
  | cons child rest ofRest =>
    have behind : (frame.take child).HasContent model .subsequentError := by
      rw [take, has.takeChild, takeWithin_of_hasFailed failed]
      exact ⟨rfl, has.isNil⟩
    exact ofRest behind rfl

/-- Behind a child that is not allowed where it stands, a child has been rejected. -/
theorem HasContent.fill_of_stuck {state reached : ContentState} {earlier later : List Child}
    {child : Child} (has : frame.HasContent model (.valid state))
    (walks : model.walk Child.takes Child.space earlier state = some reached)
    (stuck : model.step child.takes child.space reached = none) (text : String) :
    ∃ progress, progress.hasFailed = true ∧
      (frame.fill (earlier ++ child :: later) text).HasContent model progress := by
  have rejected : ((frame.fill earlier "").take child).HasContent model .firstError := by
    rw [take, (has.fill walks "").takeChild, takeWithin_of_stuck stuck]
    exact ⟨rfl, (has.fill walks "").isNil⟩
  obtain ⟨progress, failed, behind⟩ := rejected.fill_of_hasFailed rfl later text
  refine ⟨progress, failed, ?_⟩
  rw [← fill_child, fill_fill, fill_fill, String.empty_append, String.empty_append] at behind
  exact behind

end Frame

namespace Validator

/-! ### What is passed through -/

/-- A stretch inside of a subtree that is passed through is passed through all along. -/
theorem isSkipping_along {validator : Validator} {stretch : Stretch}
    (settled : validator.Settled) (skipping : validator.isSkipping = true)
    (runs : (validator.run stretch.events).failure = none) {seen : List Event}
    (part : seen <+: stretch.events) : (validator.run seen).validator.isSkipping = true := by
  induction stretch generalizing validator seen with
  | nothing =>
    obtain rfl := List.prefix_nil.mp part
    exact skipping
  | flat event isFlat later ofLater =>
    obtain ⟨passes, further, -⟩ := run_cons_of_runs runs
    rcases List.prefix_cons_iff.mp part with rfl | ⟨rest, rfl, others⟩
    · exact skipping
    · have first := (validator.step_flat isFlat).1
      rw [run_cons_of_passes passes]
      exact ofLater (first.settled settled) (first.isSkipping.trans skipping) further others
  | element name attributes inside ending later ofInside ofLater =>
    obtain ⟨passes, further, -⟩ := run_cons_of_runs runs
    obtain ⟨runsInside, runsRest, -⟩ := runs_of_runs_append further
    obtain ⟨-, runsLater, -⟩ := run_cons_of_runs runsRest
    have into := (start_passesInto passes skipping).1
    have openedSettled := start_settled settled passes
    have openedSkips : (validator.start name attributes).validator.isSkipping = true :=
      (congrArg Option.isSome into.skipDepth).trans skipping
    -- a part of the events ends before the element, inside of it or behind it
    rcases Stretch.cases_of_prefix part with
      rfl | ⟨within, rest, rfl⟩ | ⟨behind, rest, rfl⟩
    · exact skipping
    · rw [run_cons_of_passes passes]
      exact ofInside openedSettled openedSkips runsInside rest
    · have back := element_resumes ⟨validator, name, attributes, inside⟩ settled passes
        (run_stretch openedSettled runsInside) ending
      rw [run_cons_of_passes passes, run_append _ _ _ runsInside]
      refine (congrArg Validator.isSkipping (run_endElement _ ending behind)).trans ?_
      exact ofLater (back.settled settled) (back.isSkipping.trans skipping) runsLater rest

/-! ### What is told of children -/

/-- Behind its start tag an element is assessed under a content model, and findings are told. -/
structure Judges (opened : Validator) (frame : Frame) (outer : List Frame)
    (model : ContentModel ElementTerm) : Prop where
  frames : opened.frames = frame :: outer
  outside : opened.isSkipping = false
  isValidating : opened.isValidating = true
  content : frame.HasContent model (.valid model.start)

section Children

variable {opened : Validator} {inside : Stretch} {frame : Frame} {outer : List Frame}
  {model : ContentModel ElementTerm} {earlier later : List Child} {child : Child}
  {state : ContentState}

/-- Of each child it is told whether the element rejects it, once it has taken or rejected the
children before. What is inside of a rejected child is passed through. -/
theorem Judges.told (judges : opened.Judges frame outer model) (settled : opened.Settled)
    (runs : (opened.run inside.events).failure = none)
    (split : opened.children inside = earlier ++ child :: later) :
    ∃ text,
      let admission := ((frame.fill earlier text).takeChild child.opened.registry
        child.name.expanded).2
      child.rejections = rejection child.name.raw admission ∧
        ∀ expected, admission = .rejected expected → child.IsPassed := by
  obtain ⟨⟨text, resumes⟩, settledBefore, passes, runsInside⟩ := child_reached settled runs split
  refine ⟨text, ?_⟩
  have outside : child.before.isSkipping = false := resumes.isSkipping.trans judges.outside
  have frames := resumes.frames_of_open judges.outside judges.frames
  have below : opened.frames ≠ [] := judges.frames ▸ List.cons_ne_nil frame outer
  have receives := start_receives passes outside
  have validates : child.opened.isValidating = true :=
    (receives.admits.isValidating (resumes.below below)).trans
      ((resumes.isValidating below).trans judges.isValidating)
  have admission : child.before.admission child.opened.registry child.name.expanded =
      ((frame.fill earlier text).takeChild child.opened.registry child.name.expanded).2 := by
    rw [Validator.admission, frames]
  refine ⟨?_, fun expected rejected => ?_⟩
  · rw [Child.rejections, receives.rejects, ← admission]
    show Validator.told child.opened.isValidating _ = _
    rw [validates]
    rfl
  · have skips := receives.skips expected (admission.trans rejected)
    exact fun seen part =>
      isSkipping_along (start_settled settledBefore passes) skips runsInside part

/-- Nothing is told of children that are allowed where they stand. -/
theorem Judges.silent_of_walk (judges : opened.Judges frame outer model)
    (settled : opened.Settled) (runs : (opened.run inside.events).failure = none)
    (split : opened.children inside = earlier ++ later)
    (walks : model.walk Child.takes Child.space earlier model.start = some state) :
    ∀ child ∈ earlier, child.rejections = [] := by
  intro child member
  obtain ⟨before, behind, rfl⟩ := List.append_of_mem member
  rw [ContentModel.walk_append] at walks
  obtain ⟨reached, here, rest⟩ := Option.bind_eq_some_iff.mp walks
  obtain ⟨next, steps, -⟩ := Option.bind_eq_some_iff.mp rest
  rw [List.append_assoc, List.cons_append] at split
  obtain ⟨text, rejections, -⟩ := judges.told settled runs split
  rw [rejections, (judges.content.fill here text).takeChild, Frame.takeWithin_of_step steps]
  rfl

/-- The first child that is not allowed where it stands is told of, and is passed through. -/
theorem Judges.child_of_stuck (judges : opened.Judges frame outer model)
    (settled : opened.Settled) (runs : (opened.run inside.events).failure = none)
    (split : opened.children inside = earlier ++ child :: later)
    (walks : model.walk Child.takes Child.space earlier model.start = some state)
    (stuck : model.step child.takes child.space state = none) :
    child.rejections.length = 1 ∧ child.IsPassed := by
  obtain ⟨text, rejections, passed⟩ := judges.told settled runs split
  rw [(judges.content.fill walks text).takeChild, Frame.takeWithin_of_stuck stuck] at *
  exact ⟨congrArg List.length rejections, passed _ rfl⟩

/-- Nothing is told of the children behind one that is not allowed where it stands. -/
theorem Judges.silent_of_stuck (judges : opened.Judges frame outer model)
    (settled : opened.Settled) (runs : (opened.run inside.events).failure = none)
    (split : opened.children inside = earlier ++ child :: later)
    (walks : model.walk Child.takes Child.space earlier model.start = some state)
    (stuck : model.step child.takes child.space state = none) :
    ∀ other ∈ later, other.rejections = [] := by
  intro other member
  obtain ⟨between, behind, rfl⟩ := List.append_of_mem member
  rw [← List.cons_append, ← List.append_assoc] at split
  obtain ⟨text, rejections, -⟩ := judges.told settled runs split
  obtain ⟨progress, failed, has⟩ := judges.content.fill_of_stuck walks stuck text
  rw [rejections, has.takeChild, Frame.takeWithin_of_hasFailed failed]
  rfl

end Children

/-- What is told at the end tag of an assessed element about the end of its content. -/
theorem finish_incomplete {validator : Validator} {frame : Frame} {outer : List Frame}
    {type : KnownType} (frames : validator.frames = frame :: outer)
    (outside : validator.isSkipping = false) (validates : validator.isValidating = true)
    (typed : frame.type = some type) (modelled : (contentModel? type.definition).isSome = true)
    (isNil : frame.isNil = false) (claimed : frame.isNilRefused = false)
    (ending : QualifiedName) :
    underRule .incompleteContent (validator.finish ending).diagnostics =
      checkComplete frame.raw frame.content := by
  obtain ⟨others, closing, found⟩ := finish_found outside frames ending
  have present : validator.assessContent frame = validator.assessPresent frame type := by
    rw [assessContent, typed]
    dsimp only
    rw [claimed, isNil, if_neg Bool.false_ne_true, if_neg Bool.false_ne_true]
  obtain ⟨before, after, ofBefore, ofAfter, same⟩ := validator.assessPresent_found frame type
  rw [found, validates, present, same, if_pos modelled, told, if_pos rfl]
  simp only [underRule_append]
  rw [ofBefore.underRule_eq_nil (by decide), ofAfter.underRule_eq_nil (by decide),
    closing.underRule_eq_nil (by decide), List.nil_append, List.append_nil, List.append_nil]
  exact (checkComplete_under ..).underRule_eq_self

/-- What is told at the end tag is what the children lead to. -/
theorem Judges.ended {opened : Validator} {inside : Stretch} {frame : Frame}
    {outer : List Frame} {model : ContentModel ElementTerm} {type : KnownType}
    (judges : opened.Judges frame outer model) (settled : opened.Settled)
    (runs : (opened.run inside.events).failure = none) (typed : frame.type = some type)
    (modelled : (contentModel? type.definition).isSome = true)
    (claimed : frame.isNilRefused = false) (ending : QualifiedName) :
    underRule .incompleteContent
        ((opened.run inside.events).validator.finish ending).diagnostics =
      checkComplete frame.raw (frame.fill (opened.children inside) inside.text).content := by
  have resumes := run_stretch settled runs
  have frames := resumes.frames_of_open judges.outside judges.frames
  have validates : (opened.run inside.events).validator.isValidating = true :=
    (resumes.isValidating (judges.frames ▸ List.cons_ne_nil frame outer)).trans
      judges.isValidating
  obtain ⟨content, hasText, filled⟩ := frame.fill_eq (opened.children inside) inside.text
  rw [filled] at frames ⊢
  exact finish_incomplete frames (resumes.isSkipping.trans judges.outside) validates typed modelled
    judges.content.isNil claimed ending

theorem length_checkComplete {frame : Frame} {model : ContentModel ElementTerm}
    {state : ContentState} (has : frame.HasContent model (.valid state)) (element : String) :
    (checkComplete element frame.content).length = if model.mayEnd state then 0 else 1 := by
  rw [has.content, checkComplete]
  split <;> rfl

theorem checkComplete_of_hasFailed {frame : Frame} {model : ContentModel ElementTerm}
    {progress : ContentProgress} (has : frame.HasContent model progress)
    (failed : progress.hasFailed = true) (element : String) :
    checkComplete element frame.content = [] := by
  rw [has.content]
  cases progress with
  | valid state => cases failed
  | firstError => rfl
  | subsequentError => rfl

/-- The content of an element is at its start just behind the start tag. -/
theorem start_hasContent {validator : Validator} {name : QualifiedName} {attributes : Attributes}
    (passes : (validator.start name attributes).failure = none) {frame : Frame}
    {outer : List Frame} {type : KnownType} {model : ContentModel ElementTerm}
    (outside : (validator.start name attributes).validator.isSkipping = false)
    (frames : (validator.start name attributes).validator.frames = frame :: outer)
    (typed : frame.type = some type) (modelled : contentModel? type.definition = some model)
    (isNil : frame.isNil = false) : frame.HasContent model (.valid model.start) := by
  obtain ⟨top, fresh, -, same⟩ := (receives_of_opened passes outside).admits.frames
  obtain ⟨rfl, -⟩ := List.cons.inj (frames.symm.trans same)
  refine ⟨?_, isNil⟩
  rw [fresh.content, typed]
  show (contentModel? type.definition).map OpenContent.start = _
  rw [modelled]
  rfl

/-- In every run, an assessed element with a content model is told about as its children walk
through the model: of nothing, if they come to where the content may end, and else of one thing.
This is the first child that is not allowed where it stands, whose subtree is passed through;
or, if there is none, it is that the content ends too soon. -/
theorem content_told_once {validator : Validator} (reachable : validator.Reachable)
    {name ending : QualifiedName} {attributes : Attributes} {inside : Stretch}
    (runs : (validator.run
      (Stretch.element name attributes inside ending .nothing).events).failure = none)
    {frame : Frame} {outer : List Frame} {type : KnownType} {model : ContentModel ElementTerm} :
    let opened := (validator.start name attributes).validator
    let children := opened.children inside
    let walked := model.walk Child.takes Child.space children model.start
    let incomplete := underRule .incompleteContent
      ((opened.run inside.events).validator.finish ending).diagnostics
    opened.isSkipping = false → opened.isValidating = true → opened.frames = frame :: outer →
      frame.type = some type → contentModel? type.definition = some model →
      frame.isNil = false → frame.isNilRefused = false →
      (children.flatMap Child.rejections).length + incomplete.length =
          (if walked.any model.mayEnd then 0 else 1) ∧
        match walked with
        | some state =>
          (∀ child ∈ children, child.rejections = []) ∧
            incomplete.length = if model.mayEnd state then 0 else 1
        | none =>
          incomplete = [] ∧ ∃ earlier child later state,
            children = earlier ++ child :: later ∧
            model.walk Child.takes Child.space earlier model.start = some state ∧
            model.step child.takes child.space state = none ∧
            child.rejections.length = 1 ∧ child.IsPassed ∧
            ∀ other ∈ earlier ++ later, other.rejections = [] := by
  intro opened children walked incomplete outside validates frames typed modelled isNil claimed
  obtain ⟨passes, further, -⟩ := run_cons_of_runs runs
  obtain ⟨runsInside, -⟩ := runs_of_runs_append further
  have settled : opened.Settled := start_settled reachable.settled passes
  have content : frame.HasContent model (.valid model.start) :=
    start_hasContent passes outside frames typed modelled isNil
  have judges : opened.Judges frame outer model := ⟨frames, outside, validates, content⟩
  have ended := judges.ended settled runsInside typed (by rw [modelled]; rfl) claimed ending
  cases walks : walked with
  | some state =>
    have silent : ∀ child ∈ children, child.rejections = [] :=
      judges.silent_of_walk settled runsInside (List.append_nil _).symm walks
    have last : incomplete.length = if model.mayEnd state then 0 else 1 :=
      (congrArg List.length ended).trans
        (length_checkComplete (content.fill walks inside.text) frame.raw)
    refine ⟨?_, silent, last⟩
    rw [List.flatMap_eq_nil_iff.mpr silent, last]
    exact Nat.zero_add _
  | none =>
    obtain ⟨earlier, child, later, reached, split, walksEarlier, stuck⟩ :=
      ContentModel.exists_of_walk_eq_none model Child.takes Child.space walks
    obtain ⟨once, passed⟩ := judges.child_of_stuck settled runsInside split walksEarlier stuck
    have before := judges.silent_of_walk settled runsInside split walksEarlier
    have behind := judges.silent_of_stuck settled runsInside split walksEarlier stuck
    have last : incomplete = [] := by
      obtain ⟨progress, failed, has⟩ := content.fill_of_stuck walksEarlier stuck inside.text
      refine ended.trans ?_
      show checkComplete frame.raw (frame.fill children inside.text).content = []
      rw [split]
      exact checkComplete_of_hasFailed has failed frame.raw
    refine ⟨?_, last, earlier, child, later, reached, split, walksEarlier, stuck, once, passed,
      fun other member => (List.mem_append.mp member).elim (before other) (behind other)⟩
    rw [last, split, List.flatMap_append, List.flatMap_cons, List.flatMap_eq_nil_iff.mpr before,
      List.flatMap_eq_nil_iff.mpr behind, List.nil_append, List.append_nil, once]
    rfl

theorem content_told_once_twig :
    let here := (ofBranches.step (.startElement (plain "tree") [])).validator
    let opened := (here.start (plain "branch") []).validator
    let inner := (opened.run twig.events).validator
    let incomplete := underRule .incompleteContent (inner.finish (plain "branch")).diagnostics
    ((opened.children twig).flatMap Child.rejections).length + incomplete.length = 1 ∧
      (opened.children twig).map (fun child => (child.name.localName, child.rejections.length)) =
        [("twig", 1), ("label", 0)] := by
  intro here opened inner incomplete
  have runs : (here.run (Stretch.element (plain "branch") [] twig (plain "branch")
      .nothing).events).failure = none := by
    decide +kernel
  let frame := opened.frames.headD { name := plain "" }
  have frames : opened.frames = frame :: opened.frames.tail := rfl
  let type := frame.type.get (by decide +kernel)
  let model := (contentModel? type.definition).get (by decide +kernel)
  have typed : frame.type = some type := (Option.some_get _).symm
  have modelled : contentModel? type.definition = some model := (Option.some_get _).symm
  have once := (content_told_once ((Reachable.initial ..).step _) runs (by decide +kernel)
    (by decide +kernel) frames typed modelled (by decide +kernel) (by decide +kernel)).1
  refine ⟨once.trans ?_, ?_⟩ <;> decide +kernel

end Validator

end SchemaAssessment

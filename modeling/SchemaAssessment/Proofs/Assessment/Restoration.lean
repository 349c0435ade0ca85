/-
The open elements come back. Behind an element a validator has the open elements, the
depth, the subtree that is passed through and the bindings that it had before, except
that the parent has taken or rejected one more child. By induction, a stretch leaves the
innermost open element with its children taken in turn and its text added, and all else
as it was.
-/

import SchemaAssessment.Proofs.Assessment.Nested
import SchemaAssessment.Proofs.Assessment.Steps
import SchemaAssessment.Proofs.Assessment.Stretch

namespace SchemaAssessment

/-! ### Children -/

/-- An element inside of another one, with the validator that comes to its start tag and the events
between its tags. -/
structure Child where
  before : Validator
  name : QualifiedName
  attributes : Attributes
  inside : Stretch

namespace Child

/-- The validator behind the start tag. -/
def opened (child : Child) : Validator :=
  (child.before.start child.name child.attributes).validator

/-- The validator behind the child, if it ends with the given tag. -/
def behind (child : Child) (ending : QualifiedName) : Validator :=
  ((child.opened.run child.inside.events).validator.finish ending).validator

end Child

/-- The elements of a stretch, without those inside of others. -/
def Validator.children (validator : Validator) : Stretch → List Child
  | .nothing => []
  | .flat event _ later => (validator.step event).validator.children later
  | .element name attributes inside ending later =>
    let child : Child := ⟨validator, name, attributes, inside⟩
    child :: (child.behind ending).children later

theorem Validator.length_children (validator : Validator) (stretch : Stretch) :
    (validator.children stretch).length = stretch.breadth := by
  induction stretch generalizing validator with
  | nothing => rfl
  | flat event isFlat later ofLater => exact ofLater _
  | element name attributes inside ending later _ ofLater => exact congrArg (· + 1) (ofLater _)

/-! ### What an open element holds -/

namespace Frame

/-- The element behind one more child, under the grammars known when that begins. -/
def take (frame : Frame) (child : Child) : Frame :=
  (frame.takeChild child.opened.registry child.name.expanded).1

/-- The element with some children and some text in it. -/
def fill (frame : Frame) (children : List Child) (text : String) : Frame :=
  (children.foldl take frame).addText text

theorem addText_empty (frame : Frame) : frame.addText "" = frame := by
  rw [addText, String.append_empty]
  show { frame with hasText := frame.hasText || false } = frame
  rw [Bool.or_false]

theorem addText_addText (frame : Frame) (first second : String) :
    (frame.addText first).addText second = frame.addText (first ++ second) := by
  simp only [addText, String.append_assoc, String.toList_append, List.any_append, Bool.or_assoc]

/-- Text and children do not mind each other. -/
theorem take_addText (frame : Frame) (text : String) (child : Child) :
    (frame.addText text).take child = (frame.take child).addText text := by
  unfold take takeChild
  dsimp only
  cases content : frame.content with
  | none => simp only [addText, content]
  | some content' => cases isNil : frame.isNil <;> simp only [addText, content, isNil]

theorem foldl_take_addText (frame : Frame) (text : String) (children : List Child) :
    children.foldl take (frame.addText text) = (children.foldl take frame).addText text := by
  induction children generalizing frame with
  | nil => rfl
  | cons child rest ofRest => rw [List.foldl_cons, List.foldl_cons, take_addText, ofRest]

theorem fill_nothing (frame : Frame) : frame.fill [] "" = frame := frame.addText_empty

theorem fill_child (frame : Frame) (child : Child) : frame.fill [child] "" = frame.take child :=
  (frame.take child).addText_empty

theorem fill_fill (frame : Frame) (first second : List Child) (text more : String) :
    (frame.fill first text).fill second more = frame.fill (first ++ second) (text ++ more) := by
  rw [fill, fill, fill, foldl_take_addText, addText_addText, List.foldl_append]

theorem takeChild_eq (parent : Frame) (registry : Registry) (child : ExpandedName) :
    ∃ content, (parent.takeChild registry child).1 =
        { parent with childCount := parent.childCount + 1, content } ∧
      content.map OpenContent.model = parent.content.map OpenContent.model := by
  unfold takeChild
  dsimp only
  split
  · rename_i content _ some _
    refine ⟨_, rfl, ?_⟩
    rw [some]
    unfold takeWithin
    split
    · split <;> rfl
    · rfl
    · rfl
  · exact ⟨_, rfl, rfl⟩

/-- What an element holds shows in its content, in the number of its children and in its text. -/
theorem fill_eq (frame : Frame) (children : List Child) (text : String) :
    ∃ content hasText, frame.fill children text = { frame with
      content, hasText
      childCount := frame.childCount + children.length, text := frame.text ++ text } := by
  unfold fill
  induction children generalizing frame with
  | nil => exact ⟨_, _, rfl⟩
  | cons child rest ofRest =>
    obtain ⟨content, taken, -⟩ := frame.takeChild_eq child.opened.registry child.name.expanded
    obtain ⟨further, hasText, filled⟩ := ofRest (frame.take child)
    refine ⟨further, hasText, ?_⟩
    rw [List.foldl_cons, filled, take, taken, List.length_cons, Nat.add_right_comm]
    rfl

end Frame

namespace Validator

theorem addText_empty (validator : Validator) : validator.addText "" = validator := by
  unfold addText
  split
  · rename_i frame outer outside frames
    rw [frame.addText_empty, ← frames]
  · rfl

theorem addText_addText (validator : Validator) (first second : String) :
    (validator.addText first).addText second = validator.addText (first ++ second) := by
  unfold addText
  cases skipDepth : validator.skipDepth with
  | some depth => simp only [skipDepth]
  | none =>
    cases frames : validator.frames with
    | nil => simp only [skipDepth, frames]
    | cons frame outer => simp only [frame.addText_addText]

/-- The open elements once the innermost one holds some children and some text more. Nothing is kept
of what is passed through. -/
def framesHolding (validator : Validator) (children : List Child) (text : String) : List Frame :=
  if validator.isSkipping then validator.frames
  else validator.frames.modifyHead fun frame => frame.fill children text

/-- A validator that has come back to where another one was, with some children and some text in
between. -/
structure Resumes (behind validator : Validator) (children : List Child) (text : String) :
    Prop where
  frames : behind.frames = validator.framesHolding children text
  skipDepth : behind.skipDepth = validator.skipDepth
  depth : behind.depth = validator.depth
  scopes : behind.scopes = validator.scopes
  isValidating : validator.frames ≠ [] → behind.isValidating = validator.isValidating

namespace Resumes

theorem refl (validator : Validator) : validator.Resumes validator [] "" := by
  refine ⟨?_, rfl, rfl, rfl, fun _ => rfl⟩
  rw [framesHolding]
  cases validator.frames with
  | nil => exact (ite_self _).symm
  | cons frame outer => rw [List.modifyHead_cons, frame.fill_nothing, ite_self]

theorem isSkipping {behind validator : Validator} {children : List Child} {text : String}
    (resumes : behind.Resumes validator children text) :
    behind.isSkipping = validator.isSkipping :=
  congrArg Option.isSome resumes.skipDepth

/-- The innermost open element holds what has come in between. -/
theorem frames_of_open {behind validator : Validator} {children : List Child} {text : String}
    (resumes : behind.Resumes validator children text) (outside : validator.isSkipping = false)
    {frame : Frame} {outer : List Frame} (frames : validator.frames = frame :: outer) :
    behind.frames = frame.fill children text :: outer := by
  rw [resumes.frames, framesHolding, outside, if_neg Bool.false_ne_true, frames]
  rfl

theorem below {behind validator : Validator} {children : List Child} {text : String}
    (resumes : behind.Resumes validator children text) (below : validator.frames ≠ []) :
    behind.frames ≠ [] := by
  rw [resumes.frames, framesHolding]
  split
  · exact below
  · cases frames : validator.frames with
    | nil => exact absurd frames below
    | cons frame outer => exact List.cons_ne_nil _ _

theorem trans {last middle first : Validator} {children more : List Child} {text further : String}
    (right : last.Resumes middle more further) (left : middle.Resumes first children text) :
    last.Resumes first (children ++ more) (text ++ further) where
  frames := by
    rw [right.frames, framesHolding, left.isSkipping, left.frames, framesHolding, framesHolding]
    split
    · rfl
    · rw [List.modifyHead_modifyHead]
      exact congrArg (List.modifyHead · first.frames) (funext fun frame => frame.fill_fill ..)
  skipDepth := right.skipDepth.trans left.skipDepth
  depth := right.depth.trans left.depth
  scopes := right.scopes.trans left.scopes
  isValidating := fun below =>
    (right.isValidating (left.below below)).trans (left.isValidating below)

theorem settled {behind validator : Validator} {children : List Child} {text : String}
    (resumes : behind.Resumes validator children text) (settled : validator.Settled) :
    behind.Settled := by
  intro depth inside
  rw [resumes.depth]
  exact settled depth (resumes.skipDepth ▸ inside)

end Resumes

/-! ### Elements -/

/-- The subtree that is passed through behind a start tag was opened by it or above. -/
theorem start_settled {validator : Validator} {name : QualifiedName} {attributes : Attributes}
    (settled : validator.Settled)
    (passes : (validator.start name attributes).failure = none) :
    (validator.start name attributes).validator.Settled :=
  (validator.start_opening name attributes passes).settled settled

/-- An event between tags adds its text. -/
theorem step_flat (validator : Validator) {event : Event} (isFlat : event.isFlat = true) :
    (validator.step event).validator.Resumes validator [] (event.characters?.getD "") ∧
      (validator.step event).failure = none ∧ (validator.step event).events = [event] ∧
        (validator.step event).diagnostics = [] := by
  cases event with
  | startDocument => cases isFlat
  | startElement name attributes => cases isFlat
  | endElement name => cases isFlat
  | characters text =>
    refine ⟨?_, rfl, rfl, rfl⟩
    show (validator.addText text).Resumes validator [] text
    unfold addText
    split
    · rename_i frame outer outside frames
      refine ⟨?_, rfl, rfl, rfl, fun _ => rfl⟩
      rw [framesHolding, Validator.isSkipping, outside, frames]
      rfl
    · rename_i other
      refine ⟨?_, rfl, rfl, rfl, fun _ => rfl⟩
      rw [framesHolding]
      split
      · rfl
      · rename_i outside
        cases frames : validator.frames with
        | nil => rfl
        | cons frame outer =>
          exact absurd frames (other frame outer
            (skipDepth_of_isSkipping (Bool.eq_false_iff.mpr outside)))
  | startPrefix prefixName uri =>
    have back := Resumes.refl validator
    exact ⟨⟨back.frames, rfl, rfl, rfl, fun _ => rfl⟩, rfl, rfl, rfl⟩
  | endDocument =>
    have back := Resumes.refl validator
    exact ⟨⟨back.frames, rfl, rfl, rfl, fun _ => rfl⟩, rfl, rfl, rfl⟩
  | _ => exact ⟨.refl validator, rfl, rfl, rfl⟩

/-- An end tag inside of a subtree that is passed through, behind its start tag, leads back to where
that was. -/
theorem PassesInto.finish {validator opened inner : Validator} {children : List Child}
    {text : String} (into : opened.PassesInto validator) (skipping : validator.isSkipping = true)
    (settled : validator.Settled) (resumes : inner.Resumes opened children text)
    (ending : QualifiedName) (child : Child) :
    (inner.finish ending).validator.Resumes validator [child] "" := by
  obtain ⟨skipDepth, inside⟩ := Option.isSome_iff_exists.mp skipping
  have still : inner.skipDepth = some skipDepth :=
    resumes.skipDepth.trans (into.skipDepth.trans inside)
  have deep : inner.depth = validator.depth + 1 := resumes.depth.trans into.depth
  -- the subtree was opened further out, so this is not the tag that ends it
  have above : inner.isClosing = false := by
    rw [isClosing_of_inside still, deep]
    exact beq_eq_false_iff_ne.mpr (Nat.ne_of_lt (Nat.lt_succ_of_le (settled skipDepth inside)))
  have openedSkips : opened.isSkipping = true := by
    rw [isSkipping, into.skipDepth]
    exact skipping
  have leaves := inner.finish_leaves ending
  refine ⟨?_, ?_, ?_, ?_, fun below => ?_⟩
  · rw [leaves.frames, above, if_neg Bool.false_ne_true, resumes.frames, framesHolding,
      if_pos openedSkips, into.frames, framesHolding, if_pos skipping]
  · rw [leaves.skipDepth, above, if_neg Bool.false_ne_true, still, inside]
  · rw [leaves.depth, deep, Nat.add_sub_cancel]
  · rw [leaves.scopes, resumes.scopes, into.scopes]
  · rw [leaves.isValidating, resumes.isValidating (into.frames ▸ below), into.isValidating]

/-- The end tag of an element that has been received takes it away, and leaves its parent behind one
more child. -/
theorem Admits.finish {validator opened inner : Validator} {name : QualifiedName}
    {children : List Child} {text : String} (admits : opened.Admits validator name)
    (outside : validator.isSkipping = false) (resumes : inner.Resumes opened children text)
    (ending : QualifiedName) :
    let behind := (inner.finish ending).validator
    behind.frames = validator.framesTaking opened.registry name.expanded ∧
      behind.skipDepth = validator.skipDepth ∧ behind.depth = validator.depth ∧
      behind.scopes = validator.scopes ∧
      (validator.frames ≠ [] → behind.isValidating = validator.isValidating) := by
  intro behind
  obtain ⟨frame, -, -, frames⟩ := admits.frames
  have leaves := inner.finish_leaves ending
  -- an element that was received is taken away, be its subtree passed through or not
  have closing : inner.isClosing = true := by
    rcases admits.skipDepth with none | opens
    · exact isClosing_of_outside (resumes.skipDepth.trans none)
    · rw [isClosing_of_inside (resumes.skipDepth.trans opens), resumes.depth]
      exact beq_self_eq_true opened.depth
  have tail : inner.frames.tail = validator.framesTaking opened.registry name.expanded := by
    rw [resumes.frames, framesHolding, frames]
    split <;> rfl
  have inFrame : opened.frames ≠ [] := frames ▸ List.cons_ne_nil _ _
  refine ⟨?_, ?_, ?_, ?_, fun below => ?_⟩
  · rw [leaves.frames, closing, if_pos rfl, tail]
  · rw [leaves.skipDepth, closing, if_pos rfl, skipDepth_of_isSkipping outside]
  · rw [leaves.depth, resumes.depth, admits.depth, Nat.add_sub_cancel]
  · rw [leaves.scopes, resumes.scopes, admits.scopes]
  · rw [leaves.isValidating, resumes.isValidating inFrame, admits.isValidating below]

/-- Behind an element a validator is where it was before, with the element as one more child. -/
theorem element_resumes (child : Child) {children : List Child} {text : String}
    (settled : child.before.Settled)
    (passes : (child.before.start child.name child.attributes).failure = none)
    (resumes : (child.opened.run child.inside.events).validator.Resumes child.opened children text)
    (ending : QualifiedName) : (child.behind ending).Resumes child.before [child] "" := by
  cases skipping : child.before.isSkipping with
  | true => exact (start_passesInto passes skipping).1.finish skipping settled resumes ending child
  | false =>
    obtain ⟨frames, skipDepth, depth, scopes, isValidating⟩ :=
      (start_receives passes skipping).admits.finish skipping resumes ending
    refine ⟨frames.trans ?_, skipDepth, depth, scopes, isValidating⟩
    rw [framesHolding, skipping, if_neg Bool.false_ne_true]
    exact congrArg (List.modifyHead · child.before.frames)
      (funext fun frame => (frame.fill_child child).symm)

/-! ### Stretches -/

/-- A run goes on behind a first event that does not fail. -/
theorem run_cons_of_passes {validator : Validator} {event : Event}
    (passes : (validator.step event).failure = none) (rest : List Event) :
    validator.run (event :: rest) =
      { validator := ((validator.step event).validator.run rest).validator
        diagnostics := (validator.step event).diagnostics ++
          ((validator.step event).validator.run rest).diagnostics
        events := (validator.step event).events ++
          ((validator.step event).validator.run rest).events
        failure := ((validator.step event).validator.run rest).failure } := by
  simp only [run, passes]

theorem run_concat {validator : Validator} {before : List Event} {event : Event}
    (runs : (validator.run before).failure = none)
    (passes : ((validator.run before).validator.step event).failure = none) :
    (validator.run (before ++ [event])).validator =
      ((validator.run before).validator.step event).validator := by
  rw [run_append _ _ _ runs, run_cons_of_passes passes]
  rfl

theorem run_endElement (validator : Validator) (ending : QualifiedName) (rest : List Event) :
    (validator.run (.endElement ending :: rest)).validator =
      ((validator.finish ending).validator.run rest).validator := by
  have passes : (validator.step (.endElement ending)).failure = none := rfl
  rw [run_cons_of_passes passes]
  rfl

/-- A stretch leads back to where it began, with its children and its text in the innermost open
element. -/
theorem run_stretch {validator : Validator} {stretch : Stretch} (settled : validator.Settled)
    (runs : (validator.run stretch.events).failure = none) :
    (validator.run stretch.events).validator.Resumes validator (validator.children stretch)
      stretch.text := by
  induction stretch generalizing validator with
  | nothing => exact .refl validator
  | flat event isFlat later ofLater =>
    obtain ⟨-, further, behind⟩ := run_cons_of_runs runs
    have first := (validator.step_flat isFlat).1
    rw [Stretch.events, behind]
    exact (ofLater (first.settled settled) further).trans first
  | element name attributes inside ending later ofInside ofLater =>
    obtain ⟨passes, further, behind⟩ := run_cons_of_runs runs
    obtain ⟨runsInside, runsRest, behindInside⟩ := runs_of_runs_append further
    obtain ⟨-, runsLater, behindLater⟩ := run_cons_of_runs runsRest
    let child : Child := ⟨validator, name, attributes, inside⟩
    have first : (child.behind ending).Resumes validator [child] "" :=
      element_resumes child settled passes (ofInside (start_settled settled passes) runsInside)
        ending
    rw [Stretch.events, behind, behindInside, behindLater]
    have rest := (ofLater (first.settled settled) runsLater).trans first
    rw [String.empty_append] at rest
    exact rest

/-- A validator comes to each child of a stretch behind the children before it and some text. -/
theorem child_reached {validator : Validator} {stretch : Stretch} (settled : validator.Settled)
    (runs : (validator.run stretch.events).failure = none) {earlier later : List Child}
    {child : Child} (split : validator.children stretch = earlier ++ child :: later) :
    (∃ text, child.before.Resumes validator earlier text) ∧ child.before.Settled ∧
      (child.before.start child.name child.attributes).failure = none ∧
        (child.opened.run child.inside.events).failure = none := by
  induction stretch generalizing validator earlier with
  | nothing => cases earlier <;> cases split
  | flat event isFlat later ofLater =>
    obtain ⟨-, further, -⟩ := run_cons_of_runs runs
    have first := (validator.step_flat isFlat).1
    obtain ⟨⟨text, resumes⟩, others⟩ := ofLater (first.settled settled) further split
    exact ⟨⟨_, resumes.trans first⟩, others⟩
  | element name attributes inside ending later ofInside ofLater =>
    obtain ⟨passes, further, -⟩ := run_cons_of_runs runs
    obtain ⟨runsInside, runsRest, -⟩ := runs_of_runs_append further
    obtain ⟨-, runsLater, -⟩ := run_cons_of_runs runsRest
    -- the first child is reached at once, and the others from behind it
    cases earlier with
    | nil =>
      obtain ⟨rfl, -⟩ := List.cons.inj split
      exact ⟨⟨"", .refl validator⟩, settled, passes, runsInside⟩
    | cons head earlier =>
      obtain ⟨rfl, rest⟩ := List.cons.inj split
      have first := element_resumes ⟨validator, name, attributes, inside⟩ settled passes
        (run_stretch (start_settled settled passes) runsInside) ending
      obtain ⟨⟨text, resumes⟩, others⟩ := ofLater (first.settled settled) runsLater rest
      exact ⟨⟨_, resumes.trans first⟩, others⟩

/-! ### The number of open elements -/

/-- The depth goes up and down with the number of open elements. -/
theorem step_depth {validator : Validator} {event : Event} {below count behind : Nat}
    (depth : validator.depth = below + count) (counted : openBehind? count [event] = some behind)
    (passes : (validator.step event).failure = none) :
    (validator.step event).validator.depth = below + behind := by
  by_cases isFlat : event.isFlat = true
  · rw [openBehind?_flat isFlat, openBehind?] at counted
    obtain rfl := Option.some.inj counted
    exact (validator.step_flat isFlat).1.depth.trans depth
  · cases event with
    | startDocument => cases counted
    | startElement name attributes =>
      obtain rfl := Option.some.inj counted
      have deeper : (validator.start name attributes).validator.depth = validator.depth + 1 := by
        cases skipping : validator.isSkipping with
        | true => exact (start_passesInto passes skipping).1.depth
        | false => exact (start_receives passes skipping).admits.depth
      exact deeper.trans (congrArg (· + 1) depth)
    | endElement ending =>
      by_cases noneOpen : count = 0
      · rw [openBehind?, if_pos noneOpen] at counted
        cases counted
      · rw [openBehind?, if_neg noneOpen] at counted
        obtain rfl := Option.some.inj counted
        have leaves := validator.finish_leaves ending
        refine leaves.depth.trans ?_
        omega
    | _ => exact absurd rfl isFlat

/-- There are as many open elements as the depth says, or, where a subtree is passed through, as
many as at the element that opens it. -/
structure IsAligned (validator : Validator) : Prop where
  outside : validator.skipDepth = none → validator.frames.length = validator.depth
  inside : ∀ skipDepth, validator.skipDepth = some skipDepth →
    validator.frames.length = skipDepth ∧ skipDepth ≤ validator.depth

theorem IsAligned.settled {validator : Validator} (aligned : validator.IsAligned) :
    validator.Settled :=
  fun skipDepth inside => (aligned.inside skipDepth inside).2

theorem IsAligned.resumes {behind validator : Validator} {children : List Child} {text : String}
    (aligned : validator.IsAligned) (resumes : behind.Resumes validator children text) :
    behind.IsAligned := by
  have length : behind.frames.length = validator.frames.length := by
    rw [resumes.frames, framesHolding]
    split
    · rfl
    · exact List.length_modifyHead
  refine ⟨fun outside => ?_, fun skipDepth inside => ?_⟩
  · rw [length, resumes.depth]
    exact aligned.outside (resumes.skipDepth ▸ outside)
  · rw [length, resumes.depth]
    exact aligned.inside skipDepth (resumes.skipDepth ▸ inside)

theorem IsAligned.start {validator : Validator} (aligned : validator.IsAligned)
    {name : QualifiedName} {attributes : Attributes}
    (passes : (validator.start name attributes).failure = none) :
    (validator.start name attributes).validator.IsAligned := by
  cases skipping : validator.isSkipping with
  | true =>
    obtain ⟨into, -⟩ := start_passesInto passes skipping
    refine ⟨fun outside => ?_, fun skipDepth inside => ?_⟩
    · rw [isSkipping, ← into.skipDepth, outside] at skipping
      cases skipping
    · obtain ⟨length, above⟩ := aligned.inside skipDepth (into.skipDepth ▸ inside)
      rw [into.frames, into.depth]
      exact ⟨length, Nat.le_succ_of_le above⟩
  | false =>
    have admits := (start_receives passes skipping).admits
    obtain ⟨frame, -, -, frames⟩ := admits.frames
    have length : (validator.start name attributes).validator.frames.length =
        (validator.start name attributes).validator.depth := by
      rw [frames, List.length_cons, framesTaking, List.length_modifyHead, admits.depth,
        aligned.outside (skipDepth_of_isSkipping skipping)]
    refine ⟨fun _ => length, fun skipDepth inside => ?_⟩
    rcases admits.skipDepth with outside | opens
    · cases outside.symm.trans inside
    · obtain rfl := Option.some.inj (opens.symm.trans inside)
      exact ⟨length, Nat.le_refl _⟩

theorem IsAligned.finish {validator : Validator} (aligned : validator.IsAligned)
    (ending : QualifiedName) : (validator.finish ending).validator.IsAligned := by
  have leaves := validator.finish_leaves ending
  have frames := leaves.frames
  have skipDepth := leaves.skipDepth
  cases closing : validator.isClosing with
  | true =>
    rw [closing, if_pos rfl] at frames skipDepth
    refine ⟨fun _ => ?_, fun depth inside => by cases skipDepth.symm.trans inside⟩
    rw [frames, List.length_tail, leaves.depth]
    cases opens : validator.skipDepth with
    | none => rw [aligned.outside opens]
    | some depth =>
      rw [isClosing_of_inside opens] at closing
      rw [(aligned.inside depth opens).1, beq_iff_eq.mp closing]
  | false =>
    rw [closing, if_neg Bool.false_ne_true] at frames skipDepth
    refine ⟨fun outside => ?_, fun depth inside => ?_⟩
    · cases closing.symm.trans (isClosing_of_outside (skipDepth.symm.trans outside))
    · rw [frames]
      exact ⟨(aligned.inside depth (skipDepth.symm.trans inside)).1,
        aligned.settled.finish ending depth inside⟩

theorem IsAligned.step {validator : Validator} (aligned : validator.IsAligned) {event : Event}
    (passes : (validator.step event).failure = none) :
    (validator.step event).validator.IsAligned := by
  by_cases isFlat : event.isFlat = true
  · exact aligned.resumes (validator.step_flat isFlat).1
  · cases event with
    | startDocument => exact ⟨fun _ => rfl, nofun⟩
    | startElement name attributes => exact aligned.start passes
    | endElement ending => exact aligned.finish ending
    | _ => exact absurd rfl isFlat

/-- No element is open. -/
structure IsIdle (validator : Validator) : Prop where
  frames : validator.frames = []
  depth : validator.depth = 0
  skipDepth : validator.skipDepth = none

theorem isIdle_initial (registry : Registry) (source : Option GrammarSource)
    (configuration : Configuration) : (initial registry source configuration).IsIdle :=
  ⟨rfl, rfl, rfl⟩

theorem IsIdle.aligned {validator : Validator} (idle : validator.IsIdle) : validator.IsAligned := by
  refine ⟨fun _ => ?_, fun skipDepth inside => by cases idle.skipDepth.symm.trans inside⟩
  rw [idle.frames, idle.depth]
  rfl

theorem IsAligned.run {validator : Validator} (aligned : validator.IsAligned)
    {events : List Event} (runs : (validator.run events).failure = none) :
    (validator.run events).validator.IsAligned := by
  induction events generalizing validator with
  | nil => exact aligned
  | cons event rest ofRest =>
    obtain ⟨passes, further, behind⟩ := run_cons_of_runs runs
    rw [behind]
    exact ofRest (aligned.step passes) further

/-! ### Whole elements -/

/-- A validator behind an element, against the one before it and the one behind its start tag. All
is as it was before. Only where the element was received by another one, that one has a child
more, and its content is as it was behind the start tag. -/
structure Restores (behind opened validator : Validator) : Prop where
  depth : behind.depth = validator.depth
  skipDepth : behind.skipDepth = validator.skipDepth
  lookup : ∀ prefixName, behind.scopes.lookup prefixName = validator.scopes.lookup prefixName
  frames : match validator.isSkipping, validator.frames with
    | false, parent :: outer => ∃ child content,
      opened.frames =
          child :: { parent with childCount := parent.childCount + 1, content } :: outer ∧
        behind.frames = { parent with childCount := parent.childCount + 1, content } :: outer ∧
          content.map OpenContent.model = parent.content.map OpenContent.model
    | _, frames => behind.frames = frames

/-- From every state that a validator comes to without failing, an element leads back there: behind
its end tag the open elements, the depth, the subtree that is passed through and the meaning
of prefixes are what they were before its start tag, but for the parent that received it. And
in every such state the open elements number the depth, or where a subtree is passed through
the depth at which it begins. -/
theorem run_restores (registry : Registry) (source : Option GrammarSource)
    (configuration : Configuration) {events : List Event}
    (runs : ((initial registry source configuration).run events).failure = none) :
    let here := ((initial registry source configuration).run events).validator
    here.IsAligned ∧
      ∀ (name ending : QualifiedName) (attributes : Attributes) (inside : List Event),
        let started := here.start name attributes
        let ran := started.validator.run inside
        let finished := ran.validator.finish ending
        IsBalanced inside → started.failure = none → ran.failure = none →
          finished.failure = none → finished.validator.Restores started.validator here := by
  intro here
  have aligned : here.IsAligned := (isIdle_initial registry source configuration).aligned.run runs
  refine ⟨aligned, ?_⟩
  intro name ending attributes inside started ran finished balanced passes runsInside _
  obtain ⟨stretch, rfl⟩ := (isBalanced_iff_exists_stretch inside).mp balanced
  have resumes := run_stretch (aligned.start passes).settled runsInside
  let child : Child := ⟨here, name, attributes, stretch⟩
  have back : finished.validator.Resumes here [child] "" :=
    element_resumes child aligned.settled passes resumes ending
  refine ⟨back.depth, back.skipDepth, fun prefixName => by rw [back.scopes], ?_⟩
  have frames := back.frames
  rw [framesHolding] at frames
  cases skipping : here.isSkipping with
  | true =>
    rw [skipping, if_pos rfl] at frames
    exact frames
  | false =>
    rw [skipping, if_neg Bool.false_ne_true] at frames
    cases open_ : here.frames with
    | nil =>
      rw [open_] at frames
      exact frames
    | cons parent outer =>
      obtain ⟨frame, -, -, opened⟩ := (start_receives passes skipping).admits.frames
      rw [open_, List.modifyHead_cons, parent.fill_child] at frames
      rw [framesTaking, open_, List.modifyHead_cons] at opened
      obtain ⟨content, taken, model⟩ :=
        parent.takeChild_eq started.validator.registry name.expanded
      rw [taken] at opened
      exact ⟨frame, content, opened, frames.trans (congrArg (· :: outer) taken), model⟩

/-- In a branch, a twig that it does not allow, with a label that is passed through, and then a
label of its own. -/
def twig : Stretch :=
  .flat (.characters " ") rfl
    (.element (plain "twig") []
      (.element (plain "label") [] (.flat (.characters "1") rfl .nothing) (plain "label") .nothing)
      (plain "twig")
      (.flat (.startPrefix "" "urn:label") rfl
        (.element (plain "label") [] (.flat (.characters "2") rfl .nothing) (plain "label")
          .nothing)))

theorem run_restores_twig :
    let here := (ofBranches.run [.startDocument, .startElement (plain "tree") []]).validator
    let started := here.start (plain "branch") []
    let ran := started.validator.run twig.events
    let finished := ran.validator.finish (plain "branch")
    IsBalanced twig.events ∧ ran.failure = none ∧ here.IsAligned ∧
      finished.validator.Restores started.validator here ∧
      here.frames.map Frame.childCount = [0] ∧
      ran.validator.frames.map Frame.childCount = [2, 1] ∧
      finished.validator.frames.map Frame.childCount = [1] := by
  intro here started ran finished
  have runs :
      (ofBranches.run [.startDocument, .startElement (plain "tree") []]).failure = none := by
    decide +kernel
  have balanced : IsBalanced twig.events := by decide
  have passes : started.failure = none := by decide +kernel
  have runsInside : ran.failure = none := by decide +kernel
  obtain ⟨aligned, restores⟩ := run_restores _ _ _ runs
  have back := restores (plain "branch") (plain "branch") [] twig.events balanced passes runsInside
    rfl
  refine ⟨balanced, runsInside, aligned, back, ?_, ?_, ?_⟩ <;> decide +kernel

end Validator

end SchemaAssessment

/-
Well-nested parts of a document. Between two tags that belong together a validator comes
back to the open elements that it had, with the same subtree passed through, if any. So
the tags that it shows to identity constraints in between are those of a tree of assessed
elements, which holds nothing of what is passed through.
-/

import SchemaAssessment.Proofs.Assessment.Steps

namespace SchemaAssessment

/-! ### Well-nested events -/

/-- An event that is neither a tag nor the beginning or the end of a document. -/
def Event.isPiece : Event → Bool
  | .startDocument | .startElement .. | .endElement _ | .endDocument => false
  | _ => true

/-- A well-nested part of a document: elements with what is inside of them, and other events. -/
inductive Fragment where
  | nothing
  | piece (event : Event) (plain : event.isPiece = true) (later : Fragment)
  | element (name : QualifiedName) (attributes : Attributes) (inside : Fragment)
      (ending : QualifiedName) (later : Fragment)

namespace Fragment

/-- The events of a fragment in order. -/
def events : Fragment → List Event
  | .nothing => []
  | .piece event _ later => event :: later.events
  | .element name attributes inside ending later =>
    .startElement name attributes :: (inside.events ++ .endElement ending :: later.events)

theorem isWithin_of_isPiece {event : Event} (plain : event.isPiece = true) :
    event.isWithin = true := by
  cases event <;> first | rfl | cases plain

/-- No document begins or ends inside of a fragment. -/
theorem isWithin_of_mem_events {fragment : Fragment} {event : Event}
    (member : event ∈ fragment.events) : event.isWithin = true := by
  induction fragment with
  | nothing => cases member
  | piece other plain later ofLater =>
    rcases List.mem_cons.mp member with rfl | member
    · exact isWithin_of_isPiece plain
    · exact ofLater member
  | element name attributes inside ending later ofInside ofLater =>
    rcases List.mem_cons.mp member with rfl | member
    · rfl
    · rcases List.mem_append.mp member with member | member
      · exact ofInside member
      · rcases List.mem_cons.mp member with rfl | member
        · rfl
        · exact ofLater member

end Fragment

namespace Validator

/-! ### Standing in the same elements -/

/-- The names of the open elements. -/
def openNames (validator : Validator) : List QualifiedName := validator.frames.map Frame.name

/-- A validator that stands in the same open elements as another. -/
structure StandsWith (validator other : Validator) : Prop where
  names : validator.openNames = other.openNames
  depth : validator.depth = other.depth
  skipDepth : validator.skipDepth = other.skipDepth
  isValidating : other.openNames ≠ [] → validator.isValidating = other.isValidating

theorem StandsWith.refl (validator : Validator) : validator.StandsWith validator :=
  ⟨rfl, rfl, rfl, fun _ => rfl⟩

theorem StandsWith.trans {first second third : Validator} (left : first.StandsWith second)
    (right : second.StandsWith third) : first.StandsWith third where
  names := left.names.trans right.names
  depth := left.depth.trans right.depth
  skipDepth := left.skipDepth.trans right.skipDepth
  isValidating := fun below =>
    (left.isValidating (right.names ▸ below)).trans (right.isValidating below)

/-- The subtree that is passed through was opened above. -/
def Settled (validator : Validator) : Prop :=
  ∀ depth, validator.skipDepth = some depth → depth ≤ validator.depth

theorem StandsWith.settled {validator other : Validator} (stands : validator.StandsWith other)
    (settled : other.Settled) : validator.Settled := by
  intro depth inside
  rw [stands.depth]
  exact settled depth (stands.skipDepth ▸ inside)

theorem step_piece (validator : Validator) {event : Event} (plain : event.isPiece = true) :
    (validator.step event).validator.StandsWith validator ∧
      (validator.step event).failure = none ∧ validator.shown? event = none := by
  cases event with
  | startDocument => cases plain
  | startElement name attributes => cases plain
  | endElement name => cases plain
  | endDocument => cases plain
  | startPrefix prefixName uri => exact ⟨⟨rfl, rfl, rfl, fun _ => rfl⟩, rfl, rfl⟩
  | characters text =>
    refine ⟨?_, rfl, rfl⟩
    show (validator.addText text).StandsWith validator
    unfold addText
    split
    · rename_i frames
      refine ⟨?_, rfl, rfl, fun _ => rfl⟩
      rw [openNames, openNames, frames]
      rfl
    · exact .refl validator
  | _ => exact ⟨.refl validator, rfl, rfl⟩

/-! ### Tags -/

/-- A validator that has gone one element deeper. -/
structure Enters (opened validator : Validator) (name : QualifiedName) : Prop where
  outside : validator.skipDepth = none
  names : opened.openNames = name :: validator.openNames
  depth : opened.depth = validator.depth + 1
  isValidating : validator.openNames ≠ [] → opened.isValidating = validator.isValidating

/-- What becomes of an element at its start tag, with the tag that is shown to identity constraints:
it is inside a subtree that is passed through, it opens such a subtree, or it is assessed,
where findings may be told or not. -/
inductive Opening (validator opened : Validator) (name : QualifiedName) :
    Option ElementStart → Prop where
  | passed (skipping : validator.isSkipping = true)
      (stands : opened.StandsWith validator.deeper) : Opening validator opened name none
  | skipped (enters : opened.Enters validator name)
      (skipDepth : opened.skipDepth = some opened.depth) : Opening validator opened name none
  | silent (enters : opened.Enters validator name) (skipDepth : opened.skipDepth = none)
      (silent : opened.isValidating = false) : Opening validator opened name none
  | shown (event : ElementStart) (enters : opened.Enters validator name)
      (skipDepth : opened.skipDepth = none) (validates : opened.isValidating = true)
      (shown : event.shown = name.raw) : Opening validator opened name (some event)

theorem takeChild_name (registry : Registry) (child : ExpandedName) (parent : Frame) :
    (parent.takeChild registry child).1.name = parent.name := by
  unfold Frame.takeChild
  dsimp only
  split <;> rfl

theorem offer_stands (validator : Validator) (name : ExpandedName) :
    (validator.offer name).1.StandsWith validator := by
  unfold offer
  split
  · exact .refl validator
  · rename_i parent outer frames
    refine ⟨?_, rfl, rfl, fun _ => rfl⟩
    rw [openNames, openNames, frames]
    exact congrArg (· :: outer.map Frame.name) (takeChild_name validator.registry name parent)

/-- A start tag within the limits opens an element in one of these ways. -/
theorem start_opening (validator : Validator) (name : QualifiedName) (attributes : Attributes)
    (passes : (validator.start name attributes).failure = none) :
    Opening validator (validator.start name attributes).validator name
      (validator.shownStart? name attributes) := by
  rcases validator.start_cases name attributes with
    ⟨fails, -⟩ | ⟨skipping, passed, shown⟩ | ⟨outside, -, behind, -, shown⟩
  · exact absurd passes fails
  · rw [passed, shown]
    exact .passed skipping ⟨rfl, rfl, rfl, fun _ => rfl⟩
  · have ready := validator.prepared_keeps name attributes
    have offered := (validator.prepared name attributes).offer_stands name.expanded
    have names : (validator.prepared name attributes).openNames = validator.openNames :=
      congrArg (List.map Frame.name) ready.frames
    have validates (below : validator.openNames ≠ []) :
        (validator.prepared name attributes).isValidating = validator.isValidating :=
      ready.isValidating fun none => below (congrArg (List.map Frame.name) none)
    have free : validator.skipDepth = none := skipDepth_of_isSkipping outside
    rw [behind, shown]
    rcases (validator.prepared name attributes).receive_cases name attributes with
      ⟨none, skipped, -⟩ | ⟨declaration, type, before, some, opened, -, -⟩
    · rw [none, ite_self, skipped]
      refine .skipped ⟨free, ?_, ?_, ?_⟩ rfl
      · exact congrArg (name :: ·) (offered.names.trans names)
      · exact offered.depth.trans ready.depth
      · intro below
        exact (offered.isValidating (names ▸ below)).trans (validates below)
    · let taking := ((validator.prepared name attributes).offer name.expanded).1
      obtain ⟨⟨identifiers, identities, state⟩, -⟩ :=
        taking.openTyped_shape name attributes declaration type
      let holding : Validator := { taking with
        identifiers, identities
        frames := taking.openedFrame name attributes declaration type :: taking.frames }
      have enters : holding.Enters validator name := by
        refine ⟨free, ?_, offered.depth.trans ready.depth, fun below => ?_⟩
        · exact congrArg (name :: ·) (offered.names.trans names)
        · exact (offered.isValidating (names ▸ below)).trans (validates below)
      have unskipped : holding.skipDepth = Option.none :=
        offered.skipDepth.trans (ready.skipDepth.trans free)
      have same := (validator.prepared name attributes).offer_isValidating name.expanded
      rw [opened, some, state]
      cases validates : (validator.prepared name attributes).isValidating with
      | false => exact .silent enters unskipped (same.trans validates)
      | true => exact .shown _ enters unskipped (same.trans validates) rfl

/-- The value with which the innermost element ends, as it is shown to identity constraints. -/
def endValue? (validator : Validator) : Option Value := (validator.shownFinish?.map Prod.fst).join

/-- An end tag outside of the subtrees that are passed through closes the innermost element. -/
theorem finish_open {validator : Validator} {name : QualifiedName} {outer : List QualifiedName}
    (outside : validator.skipDepth = none) (names : validator.openNames = name :: outer)
    (ending : QualifiedName) :
    let behind := (validator.finish ending).validator
    behind.openNames = outer ∧ behind.depth = validator.depth - 1 ∧ behind.skipDepth = none ∧
      behind.isValidating = validator.isValidating ∧
        validator.shown? (.endElement ending) =
          if validator.isValidating then some (.finish validator.endValue? name.raw)
          else none := by
  intro behind
  have leaves := validator.finish_leaves ending
  have closing : validator.isClosing = true := isClosing_of_outside outside
  obtain ⟨frame, others, frames, rfl, rfl⟩ := List.map_eq_cons_iff.mp names
  refine ⟨?_, leaves.depth, leaves.skipDepth.trans (if_pos closing), leaves.isValidating, ?_⟩
  · show behind.frames.map Frame.name = _
    rw [leaves.frames, if_pos closing, frames]
    rfl
  · rw [shown?, endValue?, shownFinish?, outside, frames]
    cases validator.isValidating <;> rfl

/-- Inside of a subtree that is passed through no end tag is shown. -/
theorem shown?_of_inside {validator : Validator} {depth : Nat}
    (inside : validator.skipDepth = some depth) (ending : QualifiedName) :
    validator.shown? (.endElement ending) = none := by
  rw [shown?, shownFinish?, inside]
  rfl

theorem Enters.below {validator opened : Validator} {name : QualifiedName}
    (enters : opened.Enters validator name) : opened.openNames ≠ [] :=
  enters.names ▸ List.cons_ne_nil name validator.openNames

theorem Enters.validates {validator opened inner : Validator} {name : QualifiedName}
    (enters : opened.Enters validator name) (stands : inner.StandsWith opened) :
    inner.isValidating = opened.isValidating :=
  stands.isValidating enters.below

/-- The end tag of an element that is assessed leads back to where its start tag was. -/
theorem Enters.finish {validator opened inner : Validator} {name : QualifiedName}
    (enters : opened.Enters validator name) (skipDepth : opened.skipDepth = none)
    (stands : inner.StandsWith opened) (ending : QualifiedName) :
    (inner.finish ending).validator.StandsWith validator ∧
      inner.shown? (.endElement ending) =
        if opened.isValidating then some (.finish inner.endValue? name.raw) else none := by
  obtain ⟨names, depth, outside, isValidating, shown⟩ := finish_open
    (stands.skipDepth.trans skipDepth) (stands.names.trans enters.names) ending
  rw [enters.validates stands] at isValidating shown
  refine ⟨⟨names, ?_, outside.trans enters.outside.symm, fun below => ?_⟩, shown⟩
  · rw [depth, stands.depth, enters.depth, Nat.add_sub_cancel]
  · exact isValidating.trans (enters.isValidating below)

/-- The end tag that belongs to a start tag leads back to where that was, and is shown to identity
constraints if and only if the start tag was. -/
theorem finish_opening {validator opened inner : Validator} {name : QualifiedName}
    {event? : Option ElementStart} (opening : Opening validator opened name event?)
    (settled : validator.Settled) (stands : inner.StandsWith opened) (ending : QualifiedName) :
    (inner.finish ending).validator.StandsWith validator ∧
      inner.shown? (.endElement ending) =
        event?.map fun event => .finish inner.endValue? event.shown := by
  cases opening with
  | passed skipping openedStands =>
    obtain ⟨depth, inside⟩ := Option.isSome_iff_exists.mp skipping
    have further := stands.trans openedStands
    have still : inner.skipDepth = some depth := further.skipDepth.trans inside
    have above : ¬ inner.isClosing = true := by
      rw [isClosing_of_inside still, beq_iff_eq, further.depth]
      exact Nat.ne_of_lt (Nat.lt_succ_of_le (settled depth inside))
    have leaves := inner.finish_leaves ending
    have frames := leaves.frames.trans (if_neg above)
    refine ⟨⟨?_, ?_, ?_, fun below => ?_⟩, shown?_of_inside still ending⟩
    · exact (congrArg (List.map Frame.name) frames).trans further.names
    · exact leaves.depth.trans (congrArg (· - 1) further.depth)
    · exact leaves.skipDepth.trans ((if_neg above).trans further.skipDepth)
    · exact leaves.isValidating.trans (further.isValidating below)
  | skipped enters skipDepth =>
    have inside := stands.skipDepth.trans skipDepth
    have closing : inner.isClosing = true := by
      rw [isClosing_of_inside inside, stands.depth]
      exact beq_self_eq_true opened.depth
    have leaves := inner.finish_leaves ending
    have frames := leaves.frames.trans (if_pos closing)
    refine ⟨⟨?_, ?_, ?_, fun below => ?_⟩, shown?_of_inside inside ending⟩
    · rw [openNames, frames, List.map_tail]
      exact congrArg List.tail (stands.names.trans enters.names)
    · exact leaves.depth.trans (congrArg (· - 1) (stands.depth.trans enters.depth))
    · exact leaves.skipDepth.trans ((if_pos closing).trans enters.outside.symm)
    · exact leaves.isValidating.trans
        ((enters.validates stands).trans (enters.isValidating below))
  | silent enters skipDepth silent =>
    obtain ⟨back, shown⟩ := enters.finish skipDepth stands ending
    exact ⟨back, shown.trans (if_neg fun told => Bool.false_ne_true (silent.symm.trans told))⟩
  | shown event enters skipDepth validates shownName =>
    obtain ⟨back, shown⟩ := enters.finish skipDepth stands ending
    refine ⟨back, shown.trans ?_⟩
    rw [if_pos validates, Option.map_some, shownName]

theorem Opening.settled {validator opened : Validator} {name : QualifiedName}
    {event? : Option ElementStart} (opening : Opening validator opened name event?)
    (settled : validator.Settled) : opened.Settled := by
  intro depth inside
  cases opening with
  | passed skipping stands =>
    rw [stands.depth]
    exact Nat.le_succ_of_le (settled depth (stands.skipDepth ▸ inside))
  | skipped enters skipDepth =>
    exact (Option.some.inj (skipDepth.symm.trans inside)).ge
  | silent enters skipDepth => cases skipDepth.symm.trans inside
  | shown event enters skipDepth => cases skipDepth.symm.trans inside

/-! ### Trees -/

/-- The assessed elements of a fragment, as a validator shows them to identity constraints. Of an
element that is passed through there is nothing. -/
def assessed (validator : Validator) : Fragment → Assessed
  | .nothing => .nothing
  | .piece event _ later => (validator.step event).validator.assessed later
  | .element name attributes inside ending later =>
    let opened := (validator.start name attributes).validator
    let inner := (opened.run inside.events).validator
    let behind := (inner.finish ending).validator
    match validator.shownStart? name attributes with
    | some event => .element event (opened.assessed inside) inner.endValue? (behind.assessed later)
    | none => behind.assessed later

/-- An element as a validator shows it to identity constraints, with what is inside of it. -/
def assessedElement (validator : Validator) (event : ElementStart) (name : QualifiedName)
    (attributes : Attributes) (inside : Fragment) : AssessedElement :=
  let opened := (validator.start name attributes).validator
  ⟨event, opened.assessed inside, (opened.run inside.events).validator.endValue?⟩

/-- Inside of a subtree that is passed through, and where nothing is told, nothing is assessed for
identity constraints. -/
structure Quiet (validator : Validator) : Prop where
  silent : validator.isSkipping = true ∨ validator.openNames ≠ [] ∧ validator.isValidating = false

theorem StandsWith.quiet {validator other : Validator} (stands : validator.StandsWith other)
    (quiet : other.Quiet) : validator.Quiet := by
  rcases quiet.silent with skipping | ⟨below, silent⟩
  · exact ⟨.inl ((congrArg Option.isSome stands.skipDepth).trans skipping)⟩
  · exact ⟨.inr ⟨stands.names ▸ below, (stands.isValidating below).trans silent⟩⟩

/-- It is quiet inside of an element whose start tag is not shown. -/
theorem Opening.quiet {validator opened : Validator} {name : QualifiedName}
    (opening : Opening validator opened name none) : opened.Quiet := by
  cases opening with
  | passed skipping stands =>
    exact ⟨.inl ((congrArg Option.isSome stands.skipDepth).trans skipping)⟩
  | skipped enters skipDepth => exact ⟨.inl (congrArg Option.isSome skipDepth)⟩
  | silent enters skipDepth silent => exact ⟨.inr ⟨enters.below, silent⟩⟩

/-- Where it is quiet no start tag is shown. -/
theorem Opening.eq_none {validator opened : Validator} {name : QualifiedName}
    {event? : Option ElementStart} (opening : Opening validator opened name event?)
    (quiet : validator.Quiet) : event? = none := by
  cases opening with
  | shown event enters skipDepth validates =>
    rcases quiet.silent with skipping | ⟨below, silent⟩
    · rw [isSkipping, enters.outside] at skipping
      cases skipping
    · cases validates.symm.trans ((enters.isValidating below).trans silent)
  | _ => rfl

theorem run_cons_of_runs {validator : Validator} {event : Event} {rest : List Event}
    (runs : (validator.run (event :: rest)).failure = none) :
    (validator.step event).failure = none ∧
      ((validator.step event).validator.run rest).failure = none ∧
        (validator.run (event :: rest)).validator =
          ((validator.step event).validator.run rest).validator := by
  cases failed : (validator.step event).failure with
  | some failure => simp [run, failed] at runs
  | none =>
    refine ⟨rfl, ?_, ?_⟩
    · simpa [run, failed] using runs
    · simp [run, failed]

theorem runs_of_runs_append {validator : Validator} {first rest : List Event}
    (runs : (validator.run (first ++ rest)).failure = none) :
    (validator.run first).failure = none ∧
      ((validator.run first).validator.run rest).failure = none ∧
        (validator.run (first ++ rest)).validator =
          ((validator.run first).validator.run rest).validator := by
  induction first generalizing validator with
  | nil => exact ⟨rfl, runs, rfl⟩
  | cons event others ofOthers =>
    obtain ⟨step, further, behind⟩ := run_cons_of_runs runs
    obtain ⟨runsOthers, runsRest, same⟩ := ofOthers further
    have whole : (validator.run (event :: others)).failure = none := by
      simpa [run, step] using runsOthers
    obtain ⟨-, -, behindOthers⟩ := run_cons_of_runs whole
    rw [behindOthers]
    exact ⟨whole, runsRest, behind.trans same⟩

theorem tags_append {validator : Validator} {first rest : List Event}
    (runs : (validator.run first).failure = none) :
    validator.tags (first ++ rest) =
      validator.tags first ++ (validator.run first).validator.tags rest := by
  induction first generalizing validator with
  | nil => rfl
  | cons event others ofOthers =>
    obtain ⟨-, further, behind⟩ := run_cons_of_runs runs
    rw [List.cons_append, tags, tags, ofOthers further, behind, List.append_assoc]

/-- Running through a fragment leads back to where it began, and shows the tags of its assessed
elements. -/
theorem run_fragment {validator : Validator} {fragment : Fragment}
    (runs : (validator.run fragment.events).failure = none) (settled : validator.Settled) :
    (validator.run fragment.events).validator.StandsWith validator ∧
      validator.tags fragment.events = (validator.assessed fragment).tags ∧
        (validator.Quiet → validator.assessed fragment = .nothing) := by
  induction fragment generalizing validator with
  | nothing => exact ⟨.refl validator, rfl, fun _ => rfl⟩
  | piece event plain later ofLater =>
    obtain ⟨-, further, behind⟩ := run_cons_of_runs runs
    obtain ⟨stands, -, shown⟩ := validator.step_piece plain
    obtain ⟨back, tags, quiet⟩ := ofLater further (stands.settled settled)
    refine ⟨?_, ?_, ?_⟩
    · rw [Fragment.events, behind]
      exact back.trans stands
    · rw [Fragment.events, Validator.tags, shown]
      exact tags
    · exact fun silent => quiet (stands.quiet silent)
  | element name attributes inside ending later ofInside ofLater =>
    obtain ⟨passes, further, behind⟩ := run_cons_of_runs runs
    obtain ⟨runsInside, runsRest, behindInside⟩ := runs_of_runs_append further
    obtain ⟨-, runsLater, behindLater⟩ := run_cons_of_runs runsRest
    have opening := validator.start_opening name attributes passes
    obtain ⟨stands, tagsInside, quietInside⟩ := ofInside runsInside (opening.settled settled)
    obtain ⟨back, shown⟩ := finish_opening opening settled stands ending
    obtain ⟨backLater, tagsLater, quietLater⟩ := ofLater runsLater (back.settled settled)
    refine ⟨?_, ?_, fun silent => ?_⟩
    · rw [Fragment.events, behind, behindInside, behindLater]
      exact backLater.trans back
    · rw [Fragment.events, Validator.tags, tags_append runsInside, Validator.tags, shown,
        tagsInside, tagsLater, assessed]
      show ((validator.shownStart? name attributes).map _).toList ++ _ = _
      cases event? : validator.shownStart? name attributes with
      | none =>
        rw [event?] at opening
        rw [quietInside opening.quiet]
        rfl
      | some event => rfl
    · rw [assessed, opening.eq_none silent]
      exact quietLater (back.quiet silent)

end Validator

end SchemaAssessment

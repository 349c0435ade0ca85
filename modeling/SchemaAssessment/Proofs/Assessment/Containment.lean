/-
What happens in a subtree that is passed through stays there. The start tag that opens it
puts a placeholder on top of the open elements and marks the depth. As long as tags are
balanced behind it, the depth is above the mark at every end tag, so that no event tells
anything or changes more than the depth and the bindings in scope; and the next end tag
finds the depth at the mark and takes the placeholder away.
-/

import SchemaAssessment.Proofs.Assessment.Restoration

namespace SchemaAssessment

namespace Validator

/-! ### What is kept -/

/-- The grammars, and all that is known of the document behind the open elements, are as they were
before: the identifiers, the identity constraints at work, and the hints that were followed. -/
structure Remembers (behind before : Validator) : Prop where
  registry : behind.registry = before.registry
  attempted : behind.attempted = before.attempted
  identifiers : behind.identifiers = before.identifiers
  identities : behind.identities = before.identities
  isValidating : behind.isValidating = before.isValidating

theorem Remembers.trans {last middle first : Validator} (later : last.Remembers middle)
    (earlier : middle.Remembers first) : last.Remembers first :=
  ⟨later.registry.trans earlier.registry, later.attempted.trans earlier.attempted,
    later.identifiers.trans earlier.identifiers, later.identities.trans earlier.identities,
    later.isValidating.trans earlier.isValidating⟩

/-- The open elements are as they were too, and so is the depth at which a subtree is passed
through. -/
structure IsUntouched (behind before : Validator) : Prop extends Remembers behind before where
  frames : behind.frames = before.frames
  skipDepth : behind.skipDepth = before.skipDepth

theorem IsUntouched.refl (validator : Validator) : validator.IsUntouched validator :=
  ⟨⟨rfl, rfl, rfl, rfl, rfl⟩, rfl, rfl⟩

theorem IsUntouched.trans {last middle first : Validator} (later : last.IsUntouched middle)
    (earlier : middle.IsUntouched first) : last.IsUntouched first :=
  ⟨later.toRemembers.trans earlier.toRemembers, later.frames.trans earlier.frames,
    later.skipDepth.trans earlier.skipDepth⟩

/-! ### Single events -/

/-- An event in a subtree that is passed through tells nothing, goes on as it is, and changes
nothing but the depth and the bindings. -/
structure PassesOver (outcome : Outcome) (before : Validator) (event : Event) : Prop where
  untouched : outcome.validator.IsUntouched before
  diagnostics : outcome.diagnostics = []
  events : outcome.events = [event]

/-- The end tag of a subtree that was passed through tells nothing and takes away the placeholder;
from then on nothing is passed through, and all the rest is as it was before. -/
structure EndsPassing (outcome : Outcome) (before : Validator) (ending : QualifiedName) : Prop where
  remembers : outcome.validator.Remembers before
  frames : outcome.validator.frames = before.frames.tail
  skipDepth : outcome.validator.skipDepth = none
  diagnostics : outcome.diagnostics = []
  events : outcome.events = [.endElement ending]
  failure : outcome.failure = none

/-- A start tag that has a subtree passed through puts a placeholder on top of the open elements,
marks the depth, and takes no identifier in. -/
theorem start_skips {validator : Validator} {name : QualifiedName} {attributes : Attributes}
    (passes : (validator.start name attributes).failure = none)
    (outside : validator.isSkipping = false)
    (skips : (validator.start name attributes).validator.isSkipping = true) :
    let opened := (validator.start name attributes).validator
    opened.frames = { name } :: validator.framesTaking opened.registry name.expanded ∧
      opened.skipDepth = some opened.depth ∧ opened.depth = validator.depth + 1 ∧
        opened.identifiers = validator.identifiers := by
  intro opened
  have keeps := validator.prepared_keeps name attributes
  have free := keeps.skipDepth.trans (skipDepth_of_isSkipping outside)
  have behind : opened = ((validator.prepared name attributes).receive name attributes).1 := by
    unfold opened
    rw [validator.start_of_passes name attributes passes, if_neg (Bool.eq_false_iff.mp outside)]
    rfl
  rw [isSkipping, show (validator.start name attributes).validator = opened from rfl] at skips
  rw [behind] at skips ⊢
  rcases ((validator.prepared name attributes).receive_shape name attributes).2 with
    ⟨skipped, -⟩ | ⟨declaration, type, -, typed, -⟩
  · rw [skipped, offer_eq]
    exact ⟨congrArg (_ :: ·) (framesTaking_of_frames keeps.frames _ _), rfl, keeps.depth,
      validator.prepared_identifiers name attributes⟩
  · obtain ⟨⟨identifiers, identities, state⟩, -⟩ :=
      ((validator.prepared name attributes).offer name.expanded).1.openTyped_shape name attributes
        declaration type
    rw [typed, state, offer_eq, free] at skips
    cases skips

/-- Above the marked depth an event moves the depth as it opens or closes an element, and does nothing
else. -/
theorem step_passes_over {validator : Validator} {event : Event} {mark count behind : Nat}
    (marked : validator.skipDepth = some mark) (depth : validator.depth = mark + count)
    (counted : openBehind? count [event] = some behind) (goesOn : event ≠ .endDocument)
    (passes : (validator.step event).failure = none) :
    PassesOver (validator.step event) validator event := by
  have skipping : validator.isSkipping = true := by rw [isSkipping, marked, Option.isSome_some]
  cases event with
  | startDocument => cases counted
  | endDocument => exact absurd rfl goesOn
  | startElement name attributes =>
    have same : validator.step (.startElement name attributes) =
        validator.entered.pass (.startElement name attributes) := by
      show validator.start name attributes = _
      rw [validator.start_of_passes name attributes passes, if_pos skipping]
    rw [same]
    exact ⟨⟨⟨rfl, rfl, rfl, rfl, rfl⟩, rfl, rfl⟩, rfl, rfl⟩
  | endElement ending =>
    by_cases noneOpen : count = 0
    · rw [openBehind?, if_pos noneOpen] at counted
      cases counted
    · -- the depth is above the mark, so that this is not the end of the subtree
      have above : (mark == validator.depth) = false := by
        rw [beq_eq_false_iff_ne]
        omega
      have closed : validator.close = (validator, none, []) := by
        unfold close
        rw [marked]
        simp [leaveSkip, above]
      have same : validator.step (.endElement ending) =
          validator.leaveScope.pass (.endElement ending) := by
        show validator.finish ending = _
        rw [finish, closed]
        simp [told, pass]
      rw [same]
      exact ⟨⟨⟨rfl, rfl, rfl, rfl, rfl⟩, rfl, rfl⟩, rfl, rfl⟩
  | characters text =>
    have same : validator.addText text = validator := by
      unfold addText
      rw [marked]
    rw [step, same]
    exact ⟨.refl validator, rfl, rfl⟩
  | _ => exact ⟨⟨⟨rfl, rfl, rfl, rfl, rfl⟩, rfl, rfl⟩, rfl, rfl⟩

/-- The end tag at the marked depth takes the placeholder away, and tells nothing. -/
theorem finish_ends_passing {validator : Validator}
    (marked : validator.skipDepth = some validator.depth) (ending : QualifiedName) :
    EndsPassing (validator.finish ending) validator ending := by
  have closed : validator.close =
      ({ validator with skipDepth := none, frames := validator.frames.tail }, none, []) := by
    unfold close
    rw [marked]
    simp [leaveSkip]
  have same : validator.finish ending = pass
      ({ validator with skipDepth := none, frames := validator.frames.tail } : Validator).leaveScope
      (.endElement ending) := by
    rw [finish, closed]
    simp [told, pass]
  rw [same]
  exact ⟨⟨rfl, rfl, rfl, rfl, rfl⟩, rfl, rfl, rfl, rfl, rfl⟩

/-! ### Whole subtrees -/

/-- Events inside of a subtree that is passed through leave all as it was, one like another. -/
theorem run_passes_over {validator : Validator} {events : List Event} {mark count behind : Nat}
    (marked : validator.skipDepth = some mark) (depth : validator.depth = mark + count)
    (counted : openBehind? count events = some behind) (goesOn : .endDocument ∉ events)
    (runs : (validator.run events).failure = none) :
    ((validator.run events).validator.IsUntouched validator ∧
      (validator.run events).validator.depth = mark + behind) ∧
    ∀ seen event later, events = seen ++ event :: later →
      let before := (validator.run seen).validator
      before.IsUntouched validator ∧ PassesOver (before.step event) before event := by
  induction events generalizing validator count with
  | nil =>
    obtain rfl := Option.some.inj counted
    refine ⟨⟨.refl validator, depth⟩, fun seen event later none => ?_⟩
    cases seen <;> cases none
  | cons first rest ofRest =>
    obtain ⟨passes, further, same⟩ := run_cons_of_runs runs
    rw [List.mem_cons, not_or] at goesOn
    rw [← List.singleton_append, openBehind?_append] at counted
    obtain ⟨between, countedFirst, countedRest⟩ := Option.bind_eq_some_iff.mp counted
    have here := step_passes_over marked depth countedFirst (Ne.symm goesOn.1) passes
    obtain ⟨⟨untouched, depthRest⟩, others⟩ := ofRest (here.untouched.skipDepth.trans marked)
      (step_depth depth countedFirst passes) countedRest goesOn.2 further
    rw [same]
    refine ⟨⟨untouched.trans here.untouched, depthRest⟩, fun seen event later split => ?_⟩
    cases seen with
    | nil =>
      obtain ⟨rfl, -⟩ := List.cons.inj split
      exact ⟨.refl validator, here⟩
    | cons head seen =>
      obtain ⟨rfl, rfl⟩ := List.cons.inj split
      rw [run_cons_of_passes passes]
      obtain ⟨before, passing⟩ := others seen event later rfl
      exact ⟨before.trans here.untouched, passing⟩

/-- A start tag that has its subtree passed through puts a placeholder on top of the open elements.
Along all balanced events behind it, each event goes on as it is, with nothing told and nothing
changed but the depth and the bindings; and at the end tag that comes then, nothing is passed
through any more, the placeholder is gone, and all the rest is as it was behind the start tag. -/
theorem run_skipped (validator : Validator) (name ending : QualifiedName) (attributes : Attributes)
    (inside : List Event) (outside : validator.isSkipping = false)
    (passes : (validator.start name attributes).failure = none)
    (skips : (validator.start name attributes).validator.isSkipping = true)
    (balanced : IsBalanced inside) (goesOn : .endDocument ∉ inside)
    (runs : ((validator.start name attributes).validator.run inside).failure = none) :
    let opened := (validator.start name attributes).validator
    let closing := (opened.run inside).validator
    opened.skipDepth = some opened.depth ∧ opened.depth = validator.depth + 1 ∧
      (∀ seen event later, inside = seen ++ event :: later →
        let before := (opened.run seen).validator
        before.IsUntouched opened ∧ PassesOver (before.step event) before event) ∧
      closing.IsUntouched opened ∧ closing.depth = opened.depth ∧
      EndsPassing (closing.finish ending) closing ending ∧
      opened.frames = { name } :: (closing.finish ending).validator.frames := by
  intro opened closing
  obtain ⟨frames, marked, depth, -⟩ := start_skips passes outside skips
  obtain ⟨⟨untouched, depthInside⟩, each⟩ :=
    run_passes_over marked (Nat.add_zero _).symm balanced goesOn runs
  have closes : closing.skipDepth = some closing.depth := by
    rw [untouched.skipDepth, marked, depthInside, Nat.add_zero]
  have ends := finish_ends_passing closes ending
  refine ⟨marked, depth, each, untouched, depthInside, ends, ?_⟩
  rw [ends.frames, untouched.frames, frames]
  rfl

/-- In a branch, what stands in a twig that the branch does not allow: another twig with a label,
and then a branch of its own. -/
def insideTwig : List Event := [
  .startElement (plain "twig") [.specified (plain "age") "3"],
    .startElement (plain "label") [], .characters "1", .endElement (plain "label"),
  .endElement (plain "twig"),
  .startPrefix "" "urn:label", .startElement (plain "branch") [], .endElement (plain "branch"),
  .endPrefix ""]

/-- The twig is passed through, with the one inside of it, and the branch goes on behind it. -/
theorem run_skipped_twig :
    let here := (ofBranches.run [.startDocument, .startElement (plain "tree") [],
      .startElement (plain "branch") []]).validator
    let opened := (here.start (plain "twig") []).validator
    let closing := (opened.run insideTwig).validator
    here.isSkipping = false ∧ opened.isSkipping = true ∧ IsBalanced insideTwig ∧
      (opened.run insideTwig).failure = none ∧ closing.IsUntouched opened ∧
      EndsPassing (closing.finish (plain "twig")) closing (plain "twig") ∧
      opened.frames.map Frame.raw = ["twig", "branch", "tree"] ∧
      (closing.finish (plain "twig")).validator.frames.map Frame.raw = ["branch", "tree"] := by
  intro here opened closing
  have outside : here.isSkipping = false := by decide +kernel
  have passes : (here.start (plain "twig") []).failure = none := by decide +kernel
  have skips : opened.isSkipping = true := by decide +kernel
  have balanced : IsBalanced insideTwig := by decide
  have runs : (opened.run insideTwig).failure = none := by decide +kernel
  obtain ⟨-, -, -, untouched, -, ends, -⟩ :=
    run_skipped here (plain "twig") (plain "twig") [] insideTwig outside passes skips balanced
      (by decide) runs
  refine ⟨outside, skips, balanced, runs, untouched, ends, ?_, ?_⟩ <;> decide +kernel

end Validator

end SchemaAssessment

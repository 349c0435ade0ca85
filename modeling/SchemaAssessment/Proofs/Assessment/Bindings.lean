/-
The bindings in scope at tags. A validator binds the prefixes that were announced when a
start tag comes, and closes a scope at every end tag, inside of subtrees that are passed
through as well. So it hears of the bindings what any listener hears, and when it hears a
reader the two have the same bindings at every tag.
-/

import SchemaAssessment.Proofs.Assessment.Nested

namespace SchemaAssessment.Validator

/-- What a validator knows of the bindings in scope. -/
def hearing (validator : Validator) : Hearing := ⟨validator.scopes, validator.pending⟩

/-- The bindings by which a validator gives prefixes a meaning at an event. Those of a start tag are
in scope before its element is looked at, those of an end tag until its element is closed. -/
def scopesAt (validator : Validator) : Event → NamespaceScopes
  | .startElement .. => validator.entered.scopes
  | _ => validator.scopes

/-- The tags among some events, with the bindings in scope at each. -/
def tagScopes (validator : Validator) : List Event → List (Event × NamespaceScopes)
  | [] => []
  | event :: rest =>
    (if event.isTag then [(event, validator.scopesAt event)] else []) ++
      (validator.step event).validator.tagScopes rest

theorem scopesAt_hearing (validator : Validator) (event : Event) :
    validator.scopesAt event = validator.hearing.scopesAt event := by
  cases event <;> rfl

theorem receive_hearing (validator : Validator) (name : QualifiedName) (attributes : Attributes) :
    (validator.receive name attributes).1.hearing = validator.hearing := by
  obtain ⟨_, _, _, _, received⟩ := validator.receive_eq name attributes
  rw [received]
  rfl

theorem prepared_hearing (validator : Validator) (name : QualifiedName) (attributes : Attributes) :
    (validator.prepared name attributes).hearing = validator.entered.hearing := by
  obtain ⟨registry, attempted, isValidating, same, -⟩ := validator.prepared_eq name attributes
  rw [same]
  rfl

/-- Behind a start tag its bindings are in scope, whether or not its element is looked at. -/
theorem start_hearing {validator : Validator} {name : QualifiedName} {attributes : Attributes}
    (passes : (validator.start name attributes).failure = none) :
    (validator.start name attributes).validator.hearing = validator.entered.hearing := by
  rw [validator.start_of_passes name attributes passes]
  split
  · rfl
  · show ((validator.prepared name attributes).receive name attributes).1.hearing = _
    rw [receive_hearing, prepared_hearing]

/-- An event that does not fail does to the bindings what any listener makes of it. -/
theorem step_hearing {validator : Validator} {event : Event}
    (passes : (validator.step event).failure = none) :
    (validator.step event).validator.hearing = validator.hearing.hear event := by
  cases event with
  | startElement name attributes => exact start_hearing passes
  | endElement name =>
    obtain ⟨_, _, _, _, closed⟩ := validator.close_eq
    show validator.close.1.leaveScope.hearing = _
    rw [closed]
    rfl
  | characters text =>
    show (validator.addText text).hearing = validator.hearing
    unfold addText
    split <;> rfl
  | _ => rfl

/-- Along events that do not fail a validator has the bindings that any listener hears of. -/
theorem tagScopes_eq {validator : Validator} {events : List Event}
    (runs : (validator.run events).failure = none) :
    validator.tagScopes events = validator.hearing.tags events := by
  induction events generalizing validator with
  | nil => rfl
  | cons event rest ofRest =>
    obtain ⟨passes, further, -⟩ := run_cons_of_runs runs
    rw [tagScopes, Hearing.tags, scopesAt_hearing, ofRest further, step_hearing passes]

/-- A reader and a validator that hears it agree on prefixes. The tags among the events of a document
are those that the reader tells. At each of them a prefix stands, for the reader, for what its
innermost declaration says, on the element or around it. And at each tag that a validator gets to
without a failure it has the bindings that the reader has there, whatever the validator was used for
before, and whether or not the tag is inside of a subtree that is passed through. -/
theorem tagScopes_of_read (limits : Limits) (document : String) (validator : Validator) :
    let told := Markup.tagsOf limits document
    let events := (Markup.read limits document).events
    events.filter Event.isTag = told.map Markup.ToldTag.event ∧
      (∀ tag ∈ told, ∀ prefixName,
        tag.scopes.lookup prefixName = declaredSpace prefixName tag.around) ∧
      ∀ seen, seen <+: events → (validator.run seen).failure = none →
        validator.tagScopes seen =
          (told.take (seen.filter Event.isTag).length).map fun tag => (tag.event, tag.scopes) := by
  intro told events
  obtain ⟨same, innermost⟩ := Markup.read_heard limits document validator.hearing
  refine ⟨?_, innermost, fun seen part runs => ?_⟩
  · rw [← validator.hearing.tags_fst events, same, List.map_map]
    rfl
  · rw [tagScopes_eq runs, Hearing.tags_prefix _ part, same, List.map_take]

/-- A tree with a branch in which a prefix stands for nothing, and then with something misplaced that
is passed through. -/
def prefixedTree : String :=
  "<tree xmlns:p=\"v\"><branch xmlns:p=\"\"/>" ++
    "<p:leaf xmlns=\"u\" xmlns:p=\"w\"><p:label/></p:leaf></tree>"

theorem tagScopes_of_read_prefixedTree :
    let told := Markup.tagsOf .usual prefixedTree
    let events := (Markup.read .usual prefixedTree).events
    (ofBranches.run events).failure = none ∧
      ofBranches.tagScopes events = told.map (fun tag => (tag.event, tag.scopes)) ∧
      told.map (fun tag => (tag.event, tag.scopes.lookup "p")) = [
        (.startElement (plain "tree") [], some "v"), (.startElement (plain "branch") [], none),
        (.endElement (plain "branch"), none),
        (.startElement ⟨some "p", "leaf", some "w"⟩ [], some "w"),
        (.startElement ⟨some "p", "label", some "w"⟩ [], some "w"),
        (.endElement ⟨some "p", "label", some "w"⟩, some "w"),
        (.endElement ⟨some "p", "leaf", some "w"⟩, some "w"),
        (.endElement (plain "tree"), some "v")] := by
  intro told events
  have runs : (ofBranches.run events).failure = none := by decide +kernel
  obtain ⟨tags, -, agree⟩ := tagScopes_of_read .usual prefixedTree ofBranches
  have all : (events.filter Event.isTag).length = told.length := by rw [tags, List.length_map]
  refine ⟨runs, ?_, by decide +kernel⟩
  rw [agree events List.prefix_rfl runs, all, List.take_length]

end SchemaAssessment.Validator

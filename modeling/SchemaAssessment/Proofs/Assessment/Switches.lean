/-
The switches of a validator decide what is told and nothing else. Two validators that
differ in them alone pass the same events on, fail alike and have the same open elements
throughout, whatever handler stands behind them. This is seen on validators whose switches
are off and that keep nothing but what they need for that: an event does the same to them.
A validator that is not to tell its findings tells none.
-/

import SchemaAssessment.Assessment.Delivery
import SchemaAssessment.Proofs.Assessment.Restoration

namespace SchemaAssessment.Validator

/-! ### Validators with their switches off -/

/-- The validator with its switches off, and without what it keeps of values. -/
def silenced (validator : Validator) : Validator :=
  { validator with
    configuration := { validator.configuration with validates := false, isDynamic := false }
    isValidating := false
    identifiers := .none
    identities := .idle }

/-! ### Start tags -/

theorem beginRoot_silenced (validator : Validator) :
    validator.silenced.beginRoot = validator.beginRoot.silenced := by
  unfold beginRoot
  split <;> split <;> rfl

theorem decideDynamic_silenced (validator : Validator) (space : Option String) :
    validator.silenced.decideDynamic space = (validator.decideDynamic space).silenced := by
  unfold decideDynamic
  split <;> split <;> rfl

theorem followHint_silenced (validator : Validator) (element : String) (space : Option String)
    (hint : String) :
    validator.silenced.followHint element space hint =
      ((validator.followHint element space hint).1.silenced,
        (validator.followHint element space hint).2) := by
  unfold followHint silenced
  dsimp only
  split
  · rfl
  · cases validator.registry.load validator.source space hint
      validator.configuration.directory <;> rfl

theorem followHints_silenced (validator : Validator) (element : String)
    (hints : List (Option String × String)) :
    validator.silenced.followHints element hints =
      ((validator.followHints element hints).1.silenced,
        (validator.followHints element hints).2) := by
  induction hints generalizing validator with
  | nil => rfl
  | cons hint rest ofRest =>
    obtain ⟨space, hint⟩ := hint
    rw [followHints, followHints, followHint_silenced]
    dsimp only
    rw [ofRest]

theorem loadHinted_silenced (validator : Validator) (element : String) (attributes : Attributes) :
    (validator.silenced.loadHinted element attributes).1 =
      (validator.loadHinted element attributes).1.silenced := by
  unfold loadHinted silenced
  dsimp only
  split
  · exact congrArg Prod.fst (validator.followHints_silenced element _)
  · rfl

theorem prepared_silenced (validator : Validator) (name : QualifiedName) (attributes : Attributes) :
    validator.silenced.prepared name attributes =
      (validator.prepared name attributes).silenced := by
  have entered : validator.silenced.entered = validator.entered.silenced := rfl
  rw [prepared, entered, beginRoot_silenced, loadHinted_silenced, decideDynamic_silenced]
  rfl

/-- Which attributes are supplied does not depend on whether they are checked. -/
theorem assess_supplied (context : AttributeContext) (isValidating : Bool)
    (group : Option (AttributeGroup TypeReference)) (attributes : Attributes) :
    (context.assess isValidating group attributes).1 =
      (context.assess false group attributes).1 := by
  cases group with
  | none => rfl
  | some group => cases isValidating <;> rfl

theorem openTyped_silenced (validator : Validator) (name : QualifiedName) (attributes : Attributes)
    (declaration : Option KnownElement) (type : KnownType) :
    (validator.silenced.openTyped name attributes declaration type).1.silenced =
        (validator.openTyped name attributes declaration type).1.silenced ∧
      (validator.silenced.openTyped name attributes declaration type).2.1 =
        (validator.openTyped name attributes declaration type).2.1 := by
  -- identifiers and identity constraints may differ, and are forgotten on both sides
  obtain ⟨⟨_, _, same⟩, -⟩ := validator.openTyped_shape name attributes declaration type
  obtain ⟨⟨_, _, silent⟩, -⟩ := validator.silenced.openTyped_shape name attributes declaration type
  refine ⟨?_, ?_⟩
  · rw [same, silent]
    rfl
  · exact (assess_supplied ..).symm

theorem governingType_silenced (validator : Validator) (element : String)
    (declaration : Option KnownElement) (attributes : Attributes) :
    validator.silenced.governingType element declaration attributes =
      validator.governingType element declaration attributes := by
  unfold governingType chosenType silenced
  dsimp only

theorem receive_silenced (validator : Validator) (name : QualifiedName) (attributes : Attributes) :
    (validator.silenced.receive name attributes).1.silenced =
        (validator.receive name attributes).1.silenced ∧
      (validator.silenced.receive name attributes).2.1 =
        (validator.receive name attributes).2.1 := by
  have offered : validator.silenced.offer name.expanded =
      ((validator.offer name.expanded).1.silenced, (validator.offer name.expanded).2) := by
    rw [offer_eq, offer_eq]
    rfl
  unfold receive
  rw [offered]
  dsimp only
  generalize validator.offer name.expanded = offer
  obtain ⟨taken, admission⟩ := offer
  have registry : taken.silenced.registry = taken.registry := rfl
  rw [registry]
  cases admission.receive taken.registry name.expanded with
  | skipped => exact ⟨rfl, rfl⟩
  | assessed declaration isStrict =>
    unfold openElement
    dsimp only
    rw [governingType_silenced]
    cases (taken.governingType name.raw declaration attributes).1 with
    | none => exact ⟨rfl, rfl⟩
    | some type => exact taken.openTyped_silenced name attributes declaration type

/-- A start tag does the same to a validator with its switches off. -/
theorem start_silenced (validator : Validator) (name : QualifiedName) (attributes : Attributes) :
    (validator.silenced.start name attributes).validator.silenced =
        (validator.start name attributes).validator.silenced ∧
      (validator.silenced.start name attributes).events =
        (validator.start name attributes).events ∧
      (validator.silenced.start name attributes).failure =
        (validator.start name attributes).failure := by
  unfold start
  dsimp only
  have limits : checkLimits { validator.silenced with depth := validator.silenced.depth + 1 }
      attributes = checkLimits { validator with depth := validator.depth + 1 } attributes := rfl
  rw [limits]
  cases checkLimits { validator with depth := validator.depth + 1 } attributes with
  | error fault => exact ⟨rfl, rfl, rfl⟩
  | ok =>
    obtain ⟨behind, supplied⟩ :=
      (validator.prepared name attributes).receive_silenced name attributes
    rw [← prepared_silenced] at behind supplied
    let bound := validator.entered
    have outcome (skips : Bool) :
        let silent := if skips then bound.silenced.pass (.startElement name attributes)
          else bound.silenced.assessStart name attributes
        let told := if skips then bound.pass (.startElement name attributes)
          else bound.assessStart name attributes
        silent.validator.silenced = told.validator.silenced ∧ silent.events = told.events ∧
          silent.failure = told.failure := by
      cases skips with
      | true => exact ⟨rfl, rfl, rfl⟩
      | false =>
        exact ⟨behind, congrArg (fun supplied => [Event.startElement name supplied]) supplied, rfl⟩
    exact outcome validator.isSkipping

/-! ### Other events -/

theorem closeElement_silenced (validator : Validator) (frame : Frame) (outer : List Frame) :
    (validator.silenced.closeElement frame outer).1.silenced =
        (validator.closeElement frame outer).1.silenced ∧
      (validator.silenced.closeElement frame outer).2.1 =
        (validator.closeElement frame outer).2.1 := by
  obtain ⟨⟨_, _, closed⟩, supplied, -⟩ := validator.closeElement_shape frame outer
  obtain ⟨⟨_, _, silent⟩, same, -⟩ := validator.silenced.closeElement_shape frame outer
  have content : validator.silenced.assessContent frame = validator.assessContent frame := rfl
  refine ⟨?_, ?_⟩
  · rw [closed, silent]
    rfl
  · rw [supplied, same, content]

theorem leaveSkip_silenced (validator : Validator) (skipDepth : Nat) :
    validator.silenced.leaveSkip skipDepth = (validator.leaveSkip skipDepth).silenced := by
  unfold leaveSkip silenced
  dsimp only
  split <;> rfl

theorem close_silenced (validator : Validator) :
    validator.silenced.close.1.silenced = validator.close.1.silenced ∧
      validator.silenced.close.2.1 = validator.close.2.1 := by
  have skips : validator.silenced.skipDepth = validator.skipDepth := rfl
  have holds : validator.silenced.frames = validator.frames := rfl
  cases inside : validator.skipDepth with
  | some skipDepth =>
    rw [close, close, skips, inside]
    refine ⟨?_, rfl⟩
    dsimp only
    rw [leaveSkip_silenced]
    rfl
  | none =>
    cases frames : validator.frames with
    | nil =>
      rw [close, close, skips, inside, holds, frames]
      exact ⟨rfl, rfl⟩
    | cons frame outer =>
      rw [close, close, skips, inside, holds, frames]
      exact validator.closeElement_silenced frame outer

/-- An end tag does the same to a validator with its switches off. -/
theorem finish_silenced (validator : Validator) (ending : QualifiedName) :
    (validator.silenced.finish ending).validator.silenced =
        (validator.finish ending).validator.silenced ∧
      (validator.silenced.finish ending).events = (validator.finish ending).events := by
  obtain ⟨behind, supplied⟩ := validator.close_silenced
  have left (closed : Validator) : closed.leaveScope.silenced = closed.silenced.leaveScope := rfl
  refine ⟨?_, ?_⟩
  · show validator.silenced.close.1.leaveScope.silenced = validator.close.1.leaveScope.silenced
    rw [left, left, behind]
  · exact congrArg (fun supplied => (supplied.map Event.characters).toList ++ [.endElement ending])
      supplied

/-- An event does the same to a validator with its switches off. -/
theorem step_silenced (validator : Validator) (event : Event) :
    (validator.silenced.step event).validator.silenced =
        (validator.step event).validator.silenced ∧
      (validator.silenced.step event).events = (validator.step event).events ∧
      (validator.silenced.step event).failure = (validator.step event).failure := by
  cases event with
  | startElement name attributes => exact validator.start_silenced name attributes
  | endElement ending =>
    obtain ⟨behind, events⟩ := validator.finish_silenced ending
    exact ⟨behind, events, rfl⟩
  | characters text =>
    refine ⟨?_, rfl, rfl⟩
    show (validator.silenced.addText text).silenced = (validator.addText text).silenced
    unfold addText silenced
    dsimp only
    split <;> rfl
  | _ => exact ⟨rfl, rfl, rfl⟩

/-! ### Two validators -/

/-- The validators differ at most in their switches and in what they keep of values. -/
def IsAlike (left right : Validator) : Prop := left.silenced = right.silenced

theorem IsAlike.step {left right : Validator} (alike : left.IsAlike right) (event : Event) :
    (left.step event).validator.IsAlike (right.step event).validator ∧
      (left.step event).events = (right.step event).events ∧
      (left.step event).failure = (right.step event).failure := by
  obtain ⟨behind, events, failure⟩ := left.step_silenced event
  obtain ⟨other, others, fails⟩ := right.step_silenced event
  rw [IsAlike, ← behind, ← other, ← events, ← others, ← failure, ← fails,
    show left.silenced = right.silenced from alike]
  exact ⟨rfl, rfl, rfl⟩

variable {σ ε : Type}

/-- Two calls that the handler and the caller cannot tell apart, and that leave the same open
elements. -/
structure SameReply (left right : Reply σ ε) : Prop where
  received : left.received = right.received
  failure : left.failure = right.failure
  state : left.state = right.state
  frames : left.validator.frames = right.validator.frames

theorem IsAlike.call {left right : Validator} (alike : left.IsAlike right)
    (handler : Handler σ ε) (state : σ) (event : Event) :
    SameReply (left.call handler state event) (right.call handler state event) ∧
      (left.call handler state event).validator.IsAlike
        (right.call handler state event).validator := by
  obtain ⟨behind, events, failure⟩ := alike.step event
  have silent : (left.step event).validator.silenced = (right.step event).validator.silenced :=
    behind
  have frames : (left.step event).validator.silenced.frames =
      (right.step event).validator.silenced.frames :=
    congrArg Validator.frames silent
  unfold Validator.call
  dsimp only
  rw [failure, events]
  cases (right.step event).failure with
  | none => exact ⟨⟨rfl, rfl, rfl, frames⟩, behind⟩
  | some failure => exact ⟨⟨rfl, rfl, rfl, frames⟩, behind⟩

theorem IsAlike.calls {left right : Validator} (alike : left.IsAlike right)
    (handler : Handler σ ε) (state : σ) (events : List Event) :
    List.Forall₂ SameReply (left.calls handler state events)
      (right.calls handler state events) := by
  induction events generalizing left right state with
  | nil => exact .nil
  | cons event rest ofRest =>
    obtain ⟨same, behind⟩ := alike.call handler state event
    rw [Validator.calls, Validator.calls]
    refine .cons same ?_
    rw [← same.state]
    exact ofRest behind _

/-! ### Validators that are not to tell -/

/-- The validator is not to tell its findings, and does not. -/
structure IsMuted (validator : Validator) : Prop where
  validates : validator.configuration.validates = false
  isValidating : validator.isValidating = false

theorem IsMuted.told {validator : Validator} (muted : validator.IsMuted)
    (found : List Diagnostic) : told validator.isValidating found = [] := by
  rw [muted.isValidating]
  rfl

theorem IsMuted.beginRoot {validator : Validator} (muted : validator.IsMuted) :
    validator.beginRoot.IsMuted := by
  unfold Validator.beginRoot
  split
  · exact ⟨muted.validates, muted.validates⟩
  · exact muted

theorem IsMuted.prepared {validator : Validator} (muted : validator.IsMuted)
    (name : QualifiedName) (attributes : Attributes) :
    (validator.prepared name attributes).IsMuted := by
  have entered : validator.entered.IsMuted := ⟨muted.validates, muted.isValidating⟩
  obtain ⟨registry, attempted, loaded⟩ :=
    validator.entered.beginRoot.loadHinted_eq name.raw attributes
  unfold Validator.prepared
  rw [loaded]
  unfold decideDynamic
  split
  · exact ⟨entered.beginRoot.validates, rfl⟩
  · exact ⟨entered.beginRoot.validates, entered.beginRoot.isValidating⟩

theorem IsMuted.receive {validator : Validator} (muted : validator.IsMuted)
    (name : QualifiedName) (attributes : Attributes) :
    (validator.receive name attributes).1.IsMuted := by
  rcases (validator.receive_shape name attributes).2 with
    ⟨skipped, -⟩ | ⟨declaration, type, -, opened, -⟩
  · rw [skipped, offer_eq]
    exact ⟨muted.validates, muted.isValidating⟩
  · obtain ⟨⟨identifiers, identities, same⟩, -⟩ :=
      (validator.offer name.expanded).1.openTyped_shape name attributes declaration type
    rw [opened, same, offer_eq]
    exact ⟨muted.validates, muted.isValidating⟩

theorem IsMuted.start {validator : Validator} (muted : validator.IsMuted) (name : QualifiedName)
    (attributes : Attributes) :
    (validator.start name attributes).validator.IsMuted ∧
      (validator.start name attributes).diagnostics = [] := by
  have entered : validator.entered.IsMuted := ⟨muted.validates, muted.isValidating⟩
  have prepared := muted.prepared name attributes
  have assessed : (validator.entered.assessStart name attributes).validator.IsMuted ∧
      (validator.entered.assessStart name attributes).diagnostics = [] := by
    refine ⟨prepared.receive name attributes, ?_⟩
    show Validator.told validator.entered.beginRoot.isValidating _ ++
      Validator.told (validator.prepared name attributes).isValidating _ = []
    rw [entered.beginRoot.told, prepared.told]
    rfl
  unfold Validator.start
  dsimp only
  split
  · exact ⟨⟨muted.validates, muted.isValidating⟩, rfl⟩
  · split
    · exact ⟨entered, rfl⟩
    · exact assessed

theorem IsMuted.finish {validator : Validator} (muted : validator.IsMuted)
    (ending : QualifiedName) :
    (validator.finish ending).validator.IsMuted ∧
      (validator.finish ending).diagnostics = [] := by
  have leaves := validator.finish_leaves ending
  refine ⟨⟨?_, leaves.isValidating.trans muted.isValidating⟩, muted.told _⟩
  rw [leaves.configuration]
  exact muted.validates

theorem IsMuted.step {validator : Validator} (muted : validator.IsMuted) (event : Event) :
    (validator.step event).validator.IsMuted ∧ (validator.step event).diagnostics = [] := by
  cases event with
  | startDocument => exact ⟨⟨muted.validates, muted.validates⟩, rfl⟩
  | startElement name attributes => exact muted.start name attributes
  | endElement ending => exact muted.finish ending
  | characters text =>
    refine ⟨?_, rfl⟩
    show (validator.addText text).IsMuted
    unfold addText
    split
    · exact ⟨muted.validates, muted.isValidating⟩
    · exact muted
  | _ => exact ⟨⟨muted.validates, muted.isValidating⟩, rfl⟩

theorem IsMuted.call {validator : Validator} (muted : validator.IsMuted)
    (handler : Handler σ ε) (state : σ) (event : Event) :
    (validator.call handler state event).validator.IsMuted ∧
      (validator.call handler state event).diagnostics = [] := by
  have step := muted.step event
  unfold Validator.call
  dsimp only
  split
  · exact step
  · exact step

/-- A validator that is not to tell its findings tells none. -/
theorem IsMuted.calls {validator : Validator} (muted : validator.IsMuted)
    (handler : Handler σ ε) (state : σ) (events : List Event) :
    ∀ reply ∈ validator.calls handler state events, reply.diagnostics = [] := by
  induction events generalizing validator state with
  | nil =>
    intro reply member
    rw [Validator.calls] at member
    cases member
  | cons event rest ofRest =>
    obtain ⟨behind, nothing⟩ := muted.call handler state event
    intro reply member
    rw [Validator.calls] at member
    rcases List.mem_cons.mp member with rfl | later
    · exact nothing
    · exact ofRest behind _ reply later

/-! ### Whole documents -/

end SchemaAssessment.Validator

/-
A validator that is given what another one has passed on. Where no grammar speaks for an
instance, the attributes that a start tag is given change neither the hints that are followed,
nor the type that governs the element, nor its claim to be nil; and none is missing when the
tag comes again. An element that was given text holds text when its end tag comes again,
unless the text is empty. So the states of the second run are like those of the first, and
nothing but empty text is added to the events.
-/

import SchemaAssessment.Proofs.Assessment.Quiet
import SchemaAssessment.Proofs.Assessment.Switches
import SchemaAssessment.Proofs.Assessment.Transparency

namespace SchemaAssessment

/-! ### Supplied attributes -/

/-- By both lists of attributes an instance says the same to its validator. -/
def Attributes.SpeakAlike (attributes others : Attributes) : Prop :=
  ∀ localName ∈ Attribute.instanceNames,
    others.value? (instanceName localName) = attributes.value? (instanceName localName)

namespace AttributeGroup

end AttributeGroup

namespace AttributeContext

end AttributeContext

namespace Validator

/-! ### Start tags that come again -/

section SpeakAlike

variable {attributes others : Attributes}

theorem hints_of_speakAlike (alike : attributes.SpeakAlike others) :
    hints others = hints attributes := by
  unfold hints
  rw [alike "schemaLocation" (by decide), alike "noNamespaceSchemaLocation" (by decide)]

theorem governingType_of_speakAlike (alike : attributes.SpeakAlike others) (validator : Validator)
    (element : String) (declaration : Option KnownElement) :
    validator.governingType element declaration others =
      validator.governingType element declaration attributes := by
  unfold governingType
  rw [alike "type" (by decide)]

theorem claimNil_of_speakAlike (alike : attributes.SpeakAlike others) (validator : Validator)
    (element : String) (declaration : Option KnownElement) :
    validator.claimNil element declaration others =
      validator.claimNil element declaration attributes := by
  unfold claimNil
  rw [alike "nil" (by decide)]

end SpeakAlike

end Validator

namespace Event

/-- The others are the events, with nothing but empty text added in front of end tags. -/
inductive Repeats : List Event → List Event → Prop where
  | nothing : Repeats [] []
  | event (event : Event) {events others : List Event} (later : Repeats events others) :
      Repeats (event :: events) (event :: others)
  | emptyText (ending : QualifiedName) {events others : List Event}
      (later : Repeats events others) :
      Repeats (.endElement ending :: events) (.characters "" :: .endElement ending :: others)

theorem Repeats.refl (events : List Event) : Repeats events events := by
  induction events with
  | nil => exact .nothing
  | cons event rest ofRest => exact .event event ofRest

theorem Repeats.append {events others later others' : List Event} (first : Repeats events others)
    (second : Repeats later others') : Repeats (events ++ later) (others ++ others') := by
  induction first with
  | nothing => exact second
  | event event _ ofLater => exact .event event ofLater
  | emptyText ending _ ofLater => exact .emptyText ending ofLater

end Event

namespace Validator

theorem IsAlike.run {left right : Validator} (alike : left.IsAlike right) (events : List Event) :
    (left.run events).validator.IsAlike (right.run events).validator ∧
      (left.run events).events = (right.run events).events ∧
      (left.run events).failure = (right.run events).failure := by
  induction events generalizing left right with
  | nil => exact ⟨alike, rfl, rfl⟩
  | cons event rest ofRest =>
    obtain ⟨behind, events, failure⟩ := alike.step event
    obtain ⟨behindRest, others, fails⟩ := ofRest behind
    rw [Validator.run, Validator.run]
    dsimp only
    rw [failure]
    cases (right.step event).failure with
    | some fault => exact ⟨behind, events, failure⟩
    | none => exact ⟨behindRest, congrArg₂ (· ++ ·) events others, fails⟩

end Validator

end SchemaAssessment

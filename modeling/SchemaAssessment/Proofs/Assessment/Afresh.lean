/-
One validator, many documents. Whatever a validator has been through, an event that it refused
or a document that never ended, it begins the next document as one that has seen nothing: all
that outlasts a document are its configuration, its source of grammars, and the grammars, of
which there may be more by then. So the next document is answered as by a new validator with
these grammars, call by call, however the handler behind it takes the events.
-/

import SchemaAssessment.Assessment.Delivery
import SchemaAssessment.Proofs.Assessment.Hints
import SchemaAssessment.Proofs.Assessment.Phrasing

namespace SchemaAssessment.Validator

theorem behind_outlasts (validator : Validator) (events : List Event) :
    validator.Outlasts (validator.behind events) := by
  induction events generalizing validator with
  | nil => exact ⟨rfl, rfl, fun _ _ known => known⟩
  | cons event rest ofRest => exact (validator.step_outlasts event).trans (ofRest _)

/-! ### One call after the other -/

section Calls

variable {σ ε : Type}

/-- The validator and the state of its handler behind some events, whether or not some fail. -/
def leftBy (validator : Validator) (handler : Handler σ ε) (state : σ) :
    List Event → Validator × σ
  | [] => (validator, state)
  | event :: rest =>
    let reply := validator.call handler state event
    reply.validator.leftBy handler reply.state rest

theorem calls_append (validator : Validator) (handler : Handler σ ε) (state : σ)
    (first rest : List Event) :
    let left := validator.leftBy handler state first
    validator.calls handler state (first ++ rest) =
      validator.calls handler state first ++ left.1.calls handler left.2 rest := by
  induction first generalizing validator state with
  | nil => rfl
  | cons event others ofOthers => exact congrArg (_ :: ·) (ofOthers _ _)

/-- The handler does not see to the validator. -/
theorem leftBy_validator (validator : Validator) (handler : Handler σ ε) (state : σ)
    (events : List Event) : (validator.leftBy handler state events).1 = validator.behind events := by
  induction events generalizing validator state with
  | nil => rfl
  | cons event rest ofRest =>
    have steps : (validator.call handler state event).validator =
        (validator.step event).validator := by
      unfold call
      dsimp only
      split <;> rfl
    rw [leftBy, ofRest, steps]
    rfl

/-- Behind any history of events, of which any may have failed, in the validator or in the handler,
a document is answered as by a new validator with the same source, the same configuration and
the grammars that the history has left. Each call gives the handler the same events, finds the
same, fails alike, and leaves the same state behind. The history has left every grammar that
there was. -/
theorem calls_afresh (registry : Registry) (source : Option GrammarSource)
    (configuration : Configuration) (handler : Handler σ ε) (state : σ)
    (history document : List Event) :
    let begun := initial registry source configuration
    let left := begun.leftBy handler state history
    let fresh := initial left.1.registry source configuration
    begun.calls handler state (history ++ .startDocument :: document) =
        begun.calls handler state history ++
          fresh.calls handler left.2 (.startDocument :: document) ∧
      ∀ space registration, registry.registration? space = some registration →
        fresh.registry.registration? space = some registration := by
  intro begun left fresh
  have outlasts : begun.Outlasts left.1 := by
    rw [leftBy_validator]
    exact begun.behind_outlasts history
  have anew : left.1.reset = fresh.reset := by
    rw [reset, outlasts.source, outlasts.configuration]
    rfl
  have begins (validator : Validator) : validator.calls handler left.2 (.startDocument :: document) =
      let reply := validator.reset.call handler left.2 .startDocument
      reply :: validator.reset.calls handler reply.state document := rfl
  rw [calls_append, begins, begins fresh, anew]
  exact ⟨rfl, outlasts.keeps⟩

end Calls

end SchemaAssessment.Validator

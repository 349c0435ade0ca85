/-
A validator in front of a handler. The events that the validator passes on are delivered
to the handler in turn, and the handler may refuse one; what would follow at the same call
is then not delivered. A call that fails leaves the validator and the handler where they
have come to, and further calls may follow.
-/

import SchemaAssessment.Assessment.Run

namespace SchemaAssessment

variable {σ ε : Type}

/-- What takes events. It has a state, and may refuse an event. -/
structure Handler (σ ε : Type) where
  receive : σ → Event → σ × Option ε

/-- What delivering events leads to: the state of the handler, the events that it was given, and the
refusal, if there is one. -/
structure Delivery (σ ε : Type) where
  state : σ
  received : List Event := []
  refusal : Option ε := none

namespace Handler

/-- Delivers events in turn, up to the first one that is refused. -/
def deliver (handler : Handler σ ε) (state : σ) : List Event → Delivery σ ε
  | [] => { state }
  | event :: rest =>
    match handler.receive state event with
    | (next, some refusal) => { state := next, received := [event], refusal := some refusal }
    | (next, none) =>
      let others := handler.deliver next rest
      { others with received := event :: others.received }

/-- A handler that keeps the events and refuses none. -/
def recorder : Handler (List Event) Empty := ⟨fun kept event => (kept ++ [event], none)⟩

theorem deliver_recorder (kept events : List Event) :
    recorder.deliver kept events = { state := kept ++ events, received := events } := by
  induction events generalizing kept with
  | nil => rw [deliver, List.append_nil]
  | cons event rest ofRest =>
    rw [deliver]
    dsimp only [recorder]
    rw [← recorder, ofRest, List.append_assoc]
    rfl

end Handler

/-- What a call leads to: the validator and the state of the handler behind it, the events that the
handler was given, the findings, and why the call fails if it does. -/
structure Reply (σ ε : Type) where
  validator : Validator
  state : σ
  received : List Event
  diagnostics : List Diagnostic
  failure : Option (Failure ⊕ ε)

namespace Validator

/-- One event, in front of a handler. -/
def call (validator : Validator) (handler : Handler σ ε) (state : σ) (event : Event) :
    Reply σ ε :=
  let outcome := validator.step event
  match outcome.failure with
  | some failure =>
    { validator := outcome.validator, state, received := []
      diagnostics := outcome.diagnostics, failure := some (.inl failure) }
  | none =>
    let delivery := handler.deliver state outcome.events
    { validator := outcome.validator, state := delivery.state, received := delivery.received
      diagnostics := outcome.diagnostics, failure := delivery.refusal.map .inr }

/-- Events in turn, in front of a handler, whether or not some fail. -/
def calls (validator : Validator) (handler : Handler σ ε) (state : σ) :
    List Event → List (Reply σ ε)
  | [] => []
  | event :: rest =>
    let reply := validator.call handler state event
    reply :: reply.validator.calls handler reply.state rest

/-- Where no event fails, a handler that refuses nothing is given what the run passes on. -/
theorem received_calls_recorder {validator : Validator} {events : List Event} (kept : List Event)
    (runs : (validator.run events).failure = none) :
    ((validator.calls .recorder kept events).flatMap Reply.received) =
      (validator.run events).events := by
  induction events generalizing validator kept with
  | nil => rfl
  | cons event rest ofRest =>
    cases failed : (validator.step event).failure with
    | some failure => simp [run, failed] at runs
    | none =>
      have further : ((validator.step event).validator.run rest).failure = none := by
        simpa [run, failed] using runs
      simp only [calls, call, failed, Handler.deliver_recorder, List.flatMap_cons, run]
      rw [ofRest _ further]

end Validator

end SchemaAssessment

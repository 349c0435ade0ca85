/-
Whole documents. A validator takes one event after the other until the document ends
or an event fails; what came before a failure stands. A document that is read is
assessed up to where reading fails.
-/

import SchemaAssessment.Assessment.Finish
import SchemaAssessment.Assessment.Start
import SchemaAssessment.Markup.Reader

namespace SchemaAssessment.Validator

/-- Character data. -/
def addText (validator : Validator) (text : String) : Validator :=
  match validator.skipDepth, validator.frames with
  | none, frame :: outer => { validator with frames := frame.addText text :: outer }
  | _, _ => validator

/-- One event. Every event that does not fail is passed on. -/
def step (validator : Validator) : Event → Outcome
  | .startDocument => validator.reset.pass .startDocument
  | .startPrefix prefixName uri =>
    pass { validator with pending := validator.pending ++ [(prefixName, uri)] }
      (.startPrefix prefixName uri)
  | .startElement name attributes => validator.start name attributes
  | .characters text => (validator.addText text).pass (.characters text)
  | .endElement name => validator.finish name
  | .endDocument => validator.release.pass .endDocument
  | event => validator.pass event

/-- Events in turn, up to the first one that fails. -/
def run (validator : Validator) : List Event → Outcome
  | [] => { validator }
  | event :: rest =>
    let first := validator.step event
    match first.failure with
    | some _ => first
    | none =>
      let others := first.validator.run rest
      { validator := others.validator
        diagnostics := first.diagnostics ++ others.diagnostics
        events := first.events ++ others.events
        failure := others.failure }

/-- A document that is read, as far as reading goes. -/
def assess (validator : Validator) (reading : Markup.Reading) : Outcome :=
  let outcome := validator.run reading.events
  { outcome with failure := outcome.failure.or reading.failure }

/-- A document under the limits of the configuration. -/
def assessText (validator : Validator) (document : String) : Outcome :=
  validator.assess (Markup.read validator.configuration.limits document)

/-- The document in a file under the limits of the configuration. It is not read at all where the
file cannot be had. -/
def assessFile (validator : Validator) (files : FileTree) (path : String) :
    Except Failure Outcome := do
  let document ← ({ files, limits := validator.configuration.limits : Loader }).load (.path path)
  return validator.assessText document

/-- Running through events is running through the first ones and, unless those fail, through the
others. -/
theorem run_append (validator : Validator) (first rest : List Event)
    (runs : (validator.run first).failure = none) :
    validator.run (first ++ rest) =
      { validator := ((validator.run first).validator.run rest).validator
        diagnostics := (validator.run first).diagnostics ++
          ((validator.run first).validator.run rest).diagnostics
        events := (validator.run first).events ++
          ((validator.run first).validator.run rest).events
        failure := ((validator.run first).validator.run rest).failure } := by
  induction first generalizing validator with
  | nil => simp [run]
  | cons event others inductionHypothesis =>
    cases failed : (validator.step event).failure with
    | some failure => simp [run, failed] at runs
    | none =>
      have othersRun : ((validator.step event).validator.run others).failure = none := by
        simpa [run, failed] using runs
      simp [run, failed, inductionHypothesis _ othersRun, List.append_assoc]

end SchemaAssessment.Validator

/-
The validator: what it keeps while a document goes by. It knows the grammars and
where more of them can be found, the bindings in scope, the open elements that it
assesses, and whether it is inside a subtree that is passed through without being
looked at. Each event gives a new state, findings, and the events that are passed on.
-/

import SchemaAssessment.Assessment.Attributes
import SchemaAssessment.Assessment.Configuration
import SchemaAssessment.Assessment.Frame
import SchemaAssessment.Assessment.Identifiers
import SchemaAssessment.Identity.Engine
import SchemaAssessment.Resource.Loader

namespace SchemaAssessment

/-- The state of a validator. -/
structure Validator where
  registry : Registry
  source : Option GrammarSource
  configuration : Configuration
  scopes : NamespaceScopes
  /-- The bindings that the next start tag brings. -/
  pending : List (String × String)
  /-- The open elements that are assessed, innermost first. -/
  frames : List Frame
  /-- The number of open elements. -/
  depth : Nat
  /-- The depth of the element that opens the subtree that is passed through. -/
  skipDepth : Option Nat
  /-- Findings about the present document are told. -/
  isValidating : Bool
  identifiers : Identifiers
  identities : IdentityEngine
  /-- The namespaces for which a hint has been followed. -/
  attempted : List (Option String)

/-- What an event, or several, lead to: the state behind them, the findings, the events passed on,
and why the run stops if it does. -/
structure Outcome where
  validator : Validator
  diagnostics : List Diagnostic := []
  events : List Event := []
  failure : Option Failure := none

namespace Validator

/-- A validator that has seen nothing. -/
def initial (registry : Registry) (source : Option GrammarSource) (configuration : Configuration) :
    Validator where
  registry := registry
  source := source
  configuration := configuration
  scopes := .initial
  pending := []
  frames := []
  depth := 0
  skipDepth := none
  isValidating := configuration.validates
  identifiers := .none
  identities := .idle
  attempted := []

/-- The validator without what it knows of a document. -/
def reset (validator : Validator) : Validator :=
  initial validator.registry validator.source validator.configuration

/-- The validator under another configuration, without what it knows of a document. -/
def configure (validator : Validator) (configuration : Configuration) : Validator :=
  initial validator.registry validator.source configuration

/-- The validator with a feature set, which counts from the next root element on. -/
def setFeature (validator : Validator) (name : String) (value : Bool) :
    Except Failure Validator := do
  let feature ← Feature.ofName name
  return { validator with configuration := validator.configuration.setFeature feature value }

/-- The validator with one more grammar. -/
def addGrammar (validator : Validator) (grammar : Grammar) : Validator :=
  { validator with registry := validator.registry.put grammar }

/-- The present subtree is passed through. -/
def isSkipping (validator : Validator) : Bool := validator.skipDepth.isSome

/-- The findings that are told. -/
def told (isValidating : Bool) (found : List Diagnostic) : List Diagnostic :=
  if isValidating then found else []

/-- Lays the identifiers and identity constraints of a document aside. -/
def release (validator : Validator) : Validator :=
  { validator with identifiers := .none, identities := .idle, attempted := [] }

/-- Passes an event on and stays as it is. -/
def pass (validator : Validator) (event : Event) : Outcome :=
  { validator := validator, events := [event] }

/-- A validator that is reset knows nothing of what came before. -/
theorem reset_reset (validator : Validator) : validator.reset.reset = validator.reset := rfl

end Validator

end SchemaAssessment

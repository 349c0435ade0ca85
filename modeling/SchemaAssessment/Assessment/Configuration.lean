/-
The switches of a run. Two of them can also be set by the name of a feature, which is
a locator.
-/

import SchemaAssessment.Failure
import SchemaAssessment.Json.Component

namespace SchemaAssessment

/-- A switch that has a name of its own. -/
inductive Feature where
  | validation
  | dynamic
  deriving DecidableEq, Repr, Inhabited

namespace Feature

/-- The names of the features. -/
def names : List (String × Feature) := [
  ("http://xml.org/sax/features/validation", .validation),
  ("http://apache.org/xml/features/validation/dynamic", .dynamic)]

/-- The feature with a name. -/
def ofName (name : String) : Except Failure Feature :=
  (names.lookup name).elim (.error (.unknownFeature name)) .ok

end Feature

/-- How documents are assessed. -/
structure Configuration where
  /-- Findings are told. -/
  validates : Bool := true
  /-- Findings are told only where a grammar for the root element is known. -/
  isDynamic : Bool := false
  /-- Hints of the document lead to further grammars. -/
  followsHints : Bool := true
  limits : Limits := .usual
  /-- The directory that hints are seen from. -/
  directory : Option String := none
  deriving DecidableEq, Repr, Inhabited

namespace Configuration

/-- The state of a feature. -/
def feature (configuration : Configuration) : Feature → Bool
  | .validation => configuration.validates
  | .dynamic => configuration.isDynamic

/-- Sets a feature. -/
def setFeature (configuration : Configuration) (feature : Feature) (value : Bool) :
    Configuration :=
  match feature with
  | .validation => { configuration with validates := value }
  | .dynamic => { configuration with isDynamic := value }

/-- A feature has the state that it was set to. -/
theorem feature_setFeature (configuration : Configuration) (feature : Feature) (value : Bool) :
    (configuration.setFeature feature value).feature feature = value := by
  cases feature <;> rfl

/-- A configuration as a record. -/
def toJson (configuration : Configuration) : Json :=
  Json.ofMembers [
    Json.member "validation" (.bool configuration.validates),
    Json.member "dynamic_validation" (.bool configuration.isDynamic),
    Json.member "load_schema_locations" (.bool configuration.followsHints),
    Json.member "limits" configuration.limits.toJson,
    Json.memberOf "base_dir" .string configuration.directory]

/-- Reads a configuration. What is not given is as usual. -/
def ofJson (json : Json) : Except Json.Fault Configuration := do
  let fields ← Json.toFields
    ["validation", "dynamic_validation", "load_schema_locations", "limits", "base_dir"] json
  let usual : Configuration := {}
  return {
    validates := ← fields.defaulting "validation" usual.validates Json.toBool
    isDynamic := ← fields.defaulting "dynamic_validation" usual.isDynamic Json.toBool
    followsHints := ← fields.defaulting "load_schema_locations" usual.followsHints Json.toBool
    limits := ← fields.defaulting "limits" usual.limits Limits.ofJson
    directory := ← fields.optional "base_dir" Json.toText }

end Configuration

end SchemaAssessment

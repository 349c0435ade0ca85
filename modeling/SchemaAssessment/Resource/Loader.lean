/-
Getting documents and grammars from where they lie. Files are read from a tree of
files, text is taken as it is, and nothing is fetched over a network. A registry gets
the grammar of a namespace from a hint only if it does not have one yet, and only if
the grammar found there is for that namespace.
-/

import SchemaAssessment.Failure
import SchemaAssessment.Grammar.Registry

namespace SchemaAssessment

/-- How resources are loaded. -/
structure Loader where
  files : FileTree
  limits : Limits := .usual
  allowsRemote : Bool := false

namespace Loader

/-- Checks the size of a text. -/
def checkSize (loader : Loader) (text : String) : Except Failure Unit :=
  (loader.limits.check .size text.utf8ByteSize).mapError .limit

/-- The text that lies at a location. -/
def load (loader : Loader) : Location → Except Failure String
  | .path file => do
    let text ← (loader.files.read file).mapError fun fault => .resource (.file file fault)
    loader.checkSize text
    return text
  | .url locator =>
    if loader.allowsRemote then .error (.resource (.noTransport locator.text))
    else .error (.resource (.remote locator.text))
  | .text content => do
    loader.checkSize content
    return content

end Loader

/-- Where grammars come from: which files are there, and what lies at a location. -/
structure GrammarSource where
  fileExists : String → Bool
  load : Location → Except Failure Grammar

namespace GrammarSource

/-- Reads a grammar that was found at a location. -/
def read (location : Location) (text : String) : Except Failure Grammar :=
  (Grammar.ofText text).mapError fun fault => .resource (.grammar location.shown fault)

/-- Grammars that a loader finds. -/
def ofLoader (loader : Loader) : GrammarSource where
  fileExists := loader.files.holds
  load location := do read location (← loader.load location)

/-- Grammars that are given by their location, and those of another source elsewhere. -/
def orGiven (source : GrammarSource) (given : List (String × Except Json.Fault Grammar)) :
    GrammarSource where
  fileExists := source.fileExists
  load location :=
    match given.lookup location.shown with
    | some grammar => grammar.mapError fun fault => .resource (.grammar location.shown fault)
    | none => source.load location

/-- The grammar for a namespace that a hint leads to. -/
def find (source : GrammarSource) (space : Option String) (hint : String)
    (directory : Option String) : Except Failure Grammar := do
  let location ← (Location.resolve source.fileExists hint directory).mapError fun fault =>
    .resource (.hint fault)
  let grammar ← source.load location
  if grammar.target == space then return grammar
  else throw (.resource (.otherTarget location.shown grammar.target space))

/-- A grammar that is found is for the namespace that was asked for. -/
theorem target_of_find {source : GrammarSource} {space : Option String} {hint : String}
    {directory : Option String} {grammar : Grammar}
    (found : source.find space hint directory = .ok grammar) : grammar.target = space := by
  unfold find at found
  cases located : (Location.resolve source.fileExists hint directory).mapError
      (fun fault => Failure.resource (.hint fault)) with
  | error failure => simp [located, bind, Except.bind] at found
  | ok location =>
    cases loaded : source.load location with
    | error failure => simp [located, loaded, bind, Except.bind] at found
    | ok other =>
      simp only [located, loaded, bind, Except.bind] at found
      split at found
      · next same =>
        obtain rfl := Except.ok.inj found
        exact eq_of_beq same
      · exact absurd found (by simp [throw, throwThe, MonadExceptOf.throw])

end GrammarSource

namespace Registry

/-- The registry with a grammar for the namespace: as it is if it has one, else with the grammar
that the hint leads to. -/
def load (registry : Registry) (source : Option GrammarSource) (space : Option String)
    (hint : String) (directory : Option String) : Except Failure Registry :=
  if registry.has space then .ok registry
  else match source with
    | none => .error (.resource .noLoader)
    | some source => (source.find space hint directory).map registry.put

/-- After loading, a grammar for the namespace is there. -/
theorem has_of_load {registry loaded : Registry} {source : Option GrammarSource}
    {space : Option String} {hint : String} {directory : Option String}
    (done : registry.load source space hint directory = .ok loaded) : loaded.has space = true := by
  unfold load at done
  split at done
  · next present => rw [← Except.ok.inj done]; exact present
  · cases source with
    | none => exact absurd done (by simp)
    | some source =>
      cases found : source.find space hint directory with
      | error failure => simp [found, Except.map] at done
      | ok grammar =>
        simp only [found, Except.map, Except.ok.injEq] at done
        subst done
        have target := GrammarSource.target_of_find found
        subst target
        simp [has, registration?, put]

end Registry

end SchemaAssessment

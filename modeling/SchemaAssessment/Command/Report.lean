/-
What a command reports: lines on the files that it was given, or the problem that made
it stop, and a status. A document that is not valid is no problem, but it makes the
status bad; a problem stops the command after what was reported before it.
-/

import SchemaAssessment.Assessment.Run
import SchemaAssessment.Command.Basic

namespace SchemaAssessment

/-- What a command reports. -/
structure Report where
  lines : List String := []
  problem : Option String := none
  status : Nat := 0
  deriving DecidableEq, Repr, Inhabited

namespace Report

/-- A problem and nothing else. -/
def ofProblem (message : String) : Report := { problem := some ("Error: " ++ message), status := 1 }

/-- A report in front of another one, whose status it keeps good only if it is good itself. -/
def followedBy (first second : Report) : Report where
  lines := first.lines ++ second.lines
  problem := second.problem
  status := max first.status second.status

end Report

namespace Command

/-- Reads the grammar in a file. -/
def readGrammar (files : FileTree) (path : String) : Except String Grammar := do
  let text ← (files.read path).mapError fun fault =>
    s!"Failed to read grammar '{path}': {fault.message}"
  (Grammar.ofText text).mapError fun fault => s!"JSON error: {fault.message}"

/-! ### Showing a grammar -/

/-- What is said of the type of an element. -/
def typeLabel : Option TypeReference → String
  | some (.named name) => name.text
  | some (.simple _) => "anonymous simple type"
  | some (.complex _) => "anonymous complex type"
  | none => "xs:anyType"

/-- What is said of a type definition. -/
def typeSort (type : TypeDefinition) : String := if type.isSimple then "simple" else "complex"

/-- A truth value as lines show it. -/
def shownBool (value : Bool) : String := if value then "true" else "false"

/-- An element in lines. -/
def elementLines (declaration : ElementDeclaration) : List String :=
  ["Element: " ++ declaration.name.text,
    "  Type: " ++ typeLabel declaration.type,
    "  Nillable: " ++ shownBool declaration.isNillable,
    "  Abstract: " ++ shownBool declaration.isAbstract]
  ++ (declaration.constraint.map fun constraint =>
    (if constraint.isFixed then "  Fixed: " else "  Default: ") ++ constraint.text).toList
  ++ declaration.identities.map fun identity =>
    s!"  Identity: {identity.name.text} ({identity.kind.name})"

/-- A whole grammar in lines. -/
def grammarLines (grammar : Grammar) : List String :=
  [programName ++ " v" ++ programVersion, "",
    "Target Namespace: " ++ grammar.target.getD "(none)", "", "=== Global Elements ==="]
  ++ grammar.elements.map (fun (_, declaration) =>
    s!"  {declaration.name.text} : {typeLabel declaration.type}")
  ++ ["", "=== Global Types ==="]
  ++ grammar.types.map (fun (name, type) => s!"  {name} ({typeSort type})")
  ++ ["", "=== Global Attributes ==="]
  ++ grammar.attributes.keys.map ("  " ++ ·)

/-- An overview of a grammar as JSON. -/
def grammarOverview (grammar : Grammar) : Json :=
  .object [
    ("attributes", .array (grammar.attributes.keys.map .string)),
    ("elements", .array (grammar.elements.map fun (_, declaration) =>
      .object [("name", .string declaration.name.text),
        ("type", .string (typeLabel declaration.type))])),
    ("targetNamespace", Json.ofOption .string grammar.target),
    ("types", .array (grammar.types.map fun (name, type) =>
      .object [("kind", .string (typeSort type)), ("name", .string name)]))]

/-- What is shown of a grammar. -/
def shownOf (inspection : Inspection) (grammar : Grammar) : Except String (List String) :=
  match inspection.element with
  | none =>
    .ok (if inspection.asJson then [(grammarOverview grammar).print] else grammarLines grammar)
  | some name =>
    match grammar.elements.lookup name with
    | none => .error s!"Element '{name}' not found in grammar"
    | some declaration =>
      .ok (if inspection.asJson then [declaration.toJson.print] else elementLines declaration)

/-- Shows a grammar. -/
def inspectFile (files : FileTree) (inspection : Inspection) : Report :=
  match readGrammar files inspection.grammar >>= shownOf inspection with
  | .ok lines => { lines }
  | .error message => .ofProblem message

/-! ### Assessing documents -/

/-- The registry with the grammars of the files, each for the given namespace if there is one. -/
def registryOf (files : FileTree) (validation : Validation) : Except String Registry :=
  validation.grammars.foldlM (fun registry path => do
    let grammar ← readGrammar files path
    return registry.put { grammar with target := validation.space.or grammar.target }) .initial

/-- How a document is assessed. Its hints are seen from the directory in which it lies. -/
def configurationOf (validation : Validation) (path : String) : Configuration where
  isDynamic := validation.isDynamic
  followsHints := !validation.ignoresHints
  limits := if validation.hasStrictLimits then .strict else .usual
  directory := Location.directoryOf path

/-- The verdict on a document in lines. -/
def verdictLines (path : String) (found : List Diagnostic) : List String :=
  if found.isEmpty then ["✓ " ++ path ++ " is valid"]
  else ("✗ " ++ path ++ " is invalid") :: found.map fun diagnostic => "  - " ++ diagnostic.text

/-- The verdict on a document as JSON. -/
def verdictJson (path : String) (found : List Diagnostic) : Json :=
  .object [("diagnostics", .array (found.map Diagnostic.toJson)), ("file", .string path),
    ("valid", .bool found.isEmpty)]

/-- What is found in the document of a file. -/
def findingsOf (files : FileTree) (validation : Validation) (registry : Registry)
    (path : String) : Except Failure (List Diagnostic) := do
  let source := GrammarSource.ofLoader { files }
  let validator := Validator.initial registry (some source) (configurationOf validation path)
  let outcome ← validator.assessFile files path
  match outcome.failure with
  | some failure => throw failure
  | none => return outcome.diagnostics

/-- The verdict on a document. -/
def verdict (asJson : Bool) (path : String) (found : List Diagnostic) : Report where
  lines := if asJson then [(verdictJson path found).print] else verdictLines path found
  status := if found.isEmpty then 0 else 1

/-- Assesses one document. -/
def assessDocument (files : FileTree) (validation : Validation) (registry : Registry)
    (path : String) : Report :=
  match findingsOf files validation registry path with
  | .error failure => .ofProblem failure.message
  | .ok found => verdict validation.asJson path found

/-- Assesses documents in turn, up to the first one that cannot be assessed. -/
def assessDocuments (files : FileTree) (validation : Validation) (registry : Registry) :
    List String → Report
  | [] => {}
  | path :: rest =>
    let first := assessDocument files validation registry path
    if first.problem.isSome then first
    else first.followedBy (assessDocuments files validation registry rest)

/-- Assesses the documents of files. -/
def validateFiles (files : FileTree) (validation : Validation) : Report :=
  match registryOf files validation with
  | .error message => .ofProblem message
  | .ok registry => assessDocuments files validation registry validation.documents

/-! ### Every command -/

/-- Carries a command out on the files that are there. -/
def run (files : FileTree) : Command → Report
  | .inspect inspection => inspectFile files inspection
  | .validate validation => validateFiles files validation
  | .tell lines => { lines }
  | .misuse => { problem := some ("\n".intercalate programForm.help), status := 2 }

/-- A document is reported with a good status if and only if nothing is found in it. -/
theorem status_assessDocument (files : FileTree) (validation : Validation) (registry : Registry)
    (path : String) :
    (assessDocument files validation registry path).status = 0 ↔
      findingsOf files validation registry path = .ok [] := by
  unfold assessDocument
  cases findingsOf files validation registry path with
  | error failure => simp [Report.ofProblem]
  | ok found => cases found <;> simp [verdict]

end Command

end SchemaAssessment

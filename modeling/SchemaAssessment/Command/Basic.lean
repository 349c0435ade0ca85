/-
The commands. The first word names the command, and what follows fits its form; or
the words ask for help, for the version, or for nothing that is known.
-/

import SchemaAssessment.Command.Arguments

namespace SchemaAssessment

/-- What is shown of a grammar: the whole or one element, in lines or as JSON. -/
structure Inspection where
  grammar : String
  element : Option String
  asJson : Bool
  deriving DecidableEq, Repr, Inhabited

/-- Which documents are assessed, and how. -/
structure Validation where
  /-- The files of the grammars. -/
  grammars : List String
  /-- The namespace that the grammars are taken to be for, in place of their own. -/
  space : Option String
  /-- The files of the documents. -/
  documents : List String
  isDynamic : Bool
  ignoresHints : Bool
  hasStrictLimits : Bool
  asJson : Bool
  deriving DecidableEq, Repr, Inhabited

/-- What the words of a command line ask for. -/
inductive Command where
  | inspect (inspection : Inspection)
  | validate (validation : Validation)
  /-- Lines to show. -/
  | tell (lines : List String)
  /-- The words are no command. -/
  | misuse
  deriving DecidableEq, Repr, Inhabited

namespace Command

/-- What is to be done where the words of a form are no command. -/
def ofStop (form : Form) : Stop → Command
  | .help => .tell form.help
  | .version => .tell [programName ++ " " ++ programVersion]
  | .misuse => .misuse

/-- The command to show a grammar. There must be a grammar. -/
def inspectOf (arguments : Arguments) : Command :=
  match arguments.value? "grammar" with
  | none => .misuse
  | some grammar => .inspect ⟨grammar, arguments.value? "element", arguments.isOn "json"⟩

/-- The command to assess documents. There must be a document. -/
def validateOf (arguments : Arguments) : Command :=
  if arguments.operands.isEmpty then .misuse
  else .validate {
    grammars := arguments.valuesOf "grammar"
    space := arguments.value? "namespace"
    documents := arguments.operands
    isDynamic := arguments.isOn "dynamic"
    ignoresHints := arguments.isOn "no-schema-locations"
    hasStrictLimits := arguments.isOn "strict-limits"
    asJson := arguments.isOn "json" }

/-- The command that the words behind its name give. -/
def ofArguments (form : Form) (make : Arguments → Command) (words : List String) : Command :=
  match form.read words with
  | .ok arguments => make arguments
  | .error reason => ofStop form reason

/-- The command to show the help that some words ask for. -/
def helpOn : List String → Command
  | [] => .tell programForm.help
  | ["inspect"] => .tell inspectForm.help
  | ["validate"] => .tell validateForm.help
  | ["help"] => .tell helpForm.help
  | _ => .misuse

/-- What the words of a command line ask for. -/
def ofWords : List String → Command
  | "inspect" :: words => ofArguments inspectForm inspectOf words
  | "validate" :: words => ofArguments validateForm validateOf words
  | "help" :: words => helpOn words
  | words => ofArguments programForm (fun _ => .misuse) (words.take 1)

/-- A command to assess documents has documents. -/
theorem documents_ne_nil_of_validateOf {arguments : Arguments} {validation : Validation}
    (made : validateOf arguments = .validate validation) : validation.documents ≠ [] := by
  unfold validateOf at made
  split at made
  · exact absurd made (by simp)
  · next present =>
    obtain rfl := Command.validate.inj made
    simpa using present

end Command

end SchemaAssessment

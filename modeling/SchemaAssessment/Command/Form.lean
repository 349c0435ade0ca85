/-
What a command line may hold, and the help that tells of it. A form lists the options
and operands of a command with a line about each; the help shows them in two columns,
with the lines about them under each other.
-/

namespace SchemaAssessment.Command

/-- Why the words of a command line are not a command to be carried out. -/
inductive Stop where
  /-- Help is asked for. -/
  | help
  /-- The version is asked for. -/
  | version
  /-- The words do not fit the form. -/
  | misuse
  deriving DecidableEq, Repr, Inhabited

/-- What an option does: it is on or off, it has a value, or it stops the reading. -/
inductive OptionKind where
  | switch
  | value (placeholder : String) (mayRepeat mayBeEmpty : Bool)
  | stop (reason : Stop)
  deriving DecidableEq, Repr, Inhabited

/-- An option: its name behind two dashes, its letter behind one, and a line about it. -/
structure OptionForm where
  name : String
  letter : Option Char
  kind : OptionKind
  about : String
  deriving DecidableEq, Repr, Inhabited

/-- The form of a command line. -/
structure Form where
  about : String
  usage : String
  /-- The commands that may follow, with a line about each. -/
  commands : List (String × String) := []
  /-- The operands, with a line about each. -/
  operands : List (String × String) := []
  options : List OptionForm := []
  deriving Repr, Inhabited

/-! ### Help -/

/-- An option as help shows it. An option without a letter keeps its place free. -/
def OptionForm.shown (option : OptionForm) : String :=
  let letter := match option.letter with
    | some letter => String.ofList ['-', letter, ',', ' ']
    | none => "    "
  letter ++ "--" ++ option.name ++ match option.kind with
    | .value placeholder _ _ => " <" ++ placeholder ++ ">"
    | _ => ""

/-- Lines of two columns, the second beginning two blanks behind the longest of the first. -/
def columns (rows : List (String × String)) : List String :=
  let width := rows.foldl (fun width row => max width row.1.length) 0
  rows.map fun row =>
    "  " ++ row.1 ++ String.ofList (List.replicate (width - row.1.length + 2) ' ') ++ row.2

/-- A titled part of a help text, which is left out if it has no rows. -/
def helpPart (title : String) (rows : List (String × String)) : List String :=
  if rows.isEmpty then [] else ["", title ++ ":"] ++ columns rows

/-- The lines of the help text of a form. -/
def Form.help (form : Form) : List String :=
  [form.about, "", "Usage: " ++ form.usage] ++ helpPart "Commands" form.commands
    ++ helpPart "Arguments" form.operands
    ++ helpPart "Options" (form.options.map fun option => (option.shown, option.about))

/-! ### The forms -/

/-- The name by which the program is called. -/
def programName : String := "xmlschema-stream"

/-- The version of the program. -/
def programVersion : String := "0.1.0"

/-- The option that asks for help. -/
def helpOption : OptionForm := ⟨"help", some 'h', .stop .help, "Print help"⟩

/-- The form of the whole command line up to the name of a command. -/
def programForm : Form where
  about := "Streaming XML Schema validation tool"
  usage := programName ++ " <COMMAND>"
  commands := [
    ("inspect", "Inspect a compiled grammar and display its declarations"),
    ("validate", "Validate XML documents"),
    ("help", "Print this message or the help of the given subcommand(s)")]
  options := [helpOption, ⟨"version", some 'V', .stop .version, "Print version"⟩]

/-- The form of the command that shows what a grammar declares. -/
def inspectForm : Form where
  about := "Inspect a compiled grammar and display its declarations"
  usage := programName ++ " inspect [OPTIONS] --grammar <GRAMMAR>"
  options := [
    ⟨"grammar", some 'g', .value "GRAMMAR" false false, "Path to the grammar file (JSON)"⟩,
    ⟨"element", some 'e', .value "ELEMENT" false true,
      "Show detailed information about a specific element"⟩,
    ⟨"json", some 'j', .switch, "Output as JSON"⟩,
    helpOption]

/-- The form of the command that assesses documents. -/
def validateForm : Form where
  about := "Validate XML documents"
  usage := programName ++ " validate [OPTIONS] <FILE>..."
  operands := [("<FILE>...", "XML files to validate")]
  options := [
    ⟨"grammar", some 'g', .value "GRAMMAR" true false, "Grammar files (JSON); may be repeated"⟩,
    ⟨"namespace", some 'n', .value "NAMESPACE" false true,
      "Target namespace to register the grammars under"⟩,
    ⟨"dynamic", none, .switch, "Only validate when a grammar exists for the root element"⟩,
    ⟨"no-schema-locations", none, .switch, "Ignore xsi:schemaLocation hints"⟩,
    ⟨"strict-limits", none, .switch, "Use strict resource limits"⟩,
    ⟨"json", some 'j', .switch, "Output diagnostics as JSON"⟩,
    helpOption]

/-- The form of the command that shows help. -/
def helpForm : Form where
  about := "Print this message or the help of the given subcommand(s)"
  usage := programName ++ " help [COMMAND]..."
  operands := [("[COMMAND]...", "Print help for the subcommand(s)")]

end SchemaAssessment.Command

/-
Reading the words of a command line by its form. The reader takes one word after the
other. It keeps what was given so far, the option whose value must come next, and
whether a lone pair of dashes has made all further words operands. The first word
that does not fit, or that asks for something else, decides.
-/

import SchemaAssessment.Command.Form
import SchemaAssessment.Text.Blank

namespace SchemaAssessment.Command

/-- What the words of a command line give: the switches that are on, the values of options in
order, and the operands in order. -/
structure Arguments where
  switches : List String := []
  values : List (String × String) := []
  operands : List String := []
  deriving DecidableEq, Repr, Inhabited

namespace Arguments

/-- A switch is on. -/
def isOn (arguments : Arguments) (name : String) : Bool := arguments.switches.contains name

/-- The first value of an option. -/
def value? (arguments : Arguments) (name : String) : Option String := arguments.values.lookup name

/-- All values of an option in order. -/
def valuesOf (arguments : Arguments) (name : String) : List String :=
  arguments.values.filterMap fun value => if value.1 == name then some value.2 else none

/-- Turns a switch on, which is done only once. -/
def turnOn (arguments : Arguments) (name : String) : Except Stop Arguments :=
  if arguments.isOn name then .error .misuse
  else .ok { arguments with switches := name :: arguments.switches }

/-- Gives an option a value. -/
def giveValue (arguments : Arguments) (name : String) (mayRepeat mayBeEmpty : Bool)
    (value : String) : Except Stop Arguments :=
  if (value.isEmpty && !mayBeEmpty) || (!mayRepeat && (arguments.value? name).isSome) then
    .error .misuse
  else .ok { arguments with values := arguments.values ++ [(name, value)] }

/-- Adds an operand, which is never empty. -/
def addOperand (arguments : Arguments) (form : Form) (word : String) : Except Stop Arguments :=
  if word.isEmpty || form.operands.isEmpty then .error .misuse
  else .ok { arguments with operands := arguments.operands ++ [word] }

/-- A switch that was turned on is on. -/
theorem isOn_of_turnOn {arguments changed : Arguments} {name : String}
    (done : arguments.turnOn name = .ok changed) : changed.isOn name = true := by
  unfold turnOn at done
  split at done
  · exact absurd done (by simp)
  · obtain rfl := Except.ok.inj done
    simp [isOn]

end Arguments

/-- The reader between two words. -/
structure ArgumentReader where
  arguments : Arguments := {}
  /-- The option whose value must be the next word. -/
  awaiting : Option OptionForm := none
  onlyOperands : Bool := false
  deriving Repr, Inhabited

namespace ArgumentReader

/-- Gives an option a value, or none if it cannot have one. -/
def supply (reader : ArgumentReader) (option : OptionForm) (value : String) :
    Except Stop ArgumentReader :=
  match option.kind with
  | .value _ mayRepeat mayBeEmpty => do
    let arguments ← reader.arguments.giveValue option.name mayRepeat mayBeEmpty value
    return { reader with arguments, awaiting := none }
  | _ => .error .misuse

/-- An option without a value of its own yet. -/
def meet (reader : ArgumentReader) (option : OptionForm) : Except Stop ArgumentReader :=
  match option.kind with
  | .stop reason => .error reason
  | .switch => do return { reader with arguments := ← reader.arguments.turnOn option.name }
  | .value _ _ _ => .ok { reader with awaiting := some option }

/-- A word behind two dashes: the name of an option, and its value if there is an equals sign. -/
def readName (form : Form) (reader : ArgumentReader) (word : String) :
    Except Stop ArgumentReader :=
  let (name, value) := match Text.splitOnce '=' word with
    | some (name, value) => (name, some value)
    | none => (word, none)
  match form.options.find? (fun option => option.name == name), value with
  | none, _ => .error .misuse
  | some option, none => reader.meet option
  | some option, some value => reader.supply option value

/-- Letters behind one dash. What follows a letter that has a value is that value, up to an equals
sign before it. -/
def readLetters (form : Form) (reader : ArgumentReader) : List Char → Except Stop ArgumentReader
  | [] => .ok reader
  | letter :: rest =>
    match form.options.find? (fun option => option.letter == some letter) with
    | none => .error .misuse
    | some option =>
      match option.kind, rest with
      | .value _ _ _, '=' :: value => reader.supply option (String.ofList value)
      | .value _ _ _, c :: value => reader.supply option (String.ofList (c :: value))
      | _, _ => do readLetters form (← reader.meet option) rest

/-- A word that begins like an option. A lone dash does not. -/
def isOptionWord (word : String) : Bool :=
  match word.toList with
  | '-' :: _ :: _ => true
  | _ => false

/-- A word that begins like an option. -/
def readOption (form : Form) (reader : ArgumentReader) (word : String) :
    Except Stop ArgumentReader :=
  match word.toList with
  | ['-', '-'] => .ok { reader with onlyOperands := true }
  | '-' :: '-' :: name => readName form reader (String.ofList name)
  | _ :: letters => readLetters form reader letters
  | [] => .ok reader

/-- Takes one word. -/
def step (form : Form) (reader : ArgumentReader) (word : String) : Except Stop ArgumentReader :=
  if reader.onlyOperands || !isOptionWord word then
    match reader.awaiting with
    | some option => reader.supply option word
    | none => do return { reader with arguments := ← reader.arguments.addOperand form word }
  else if reader.awaiting.isSome then .error .misuse
  else readOption form reader word

/-- The end of the words, where no value may be missing. -/
def finish (reader : ArgumentReader) : Except Stop Arguments :=
  if reader.awaiting.isSome then .error .misuse else .ok reader.arguments

end ArgumentReader

/-- What the words of a command line give under a form. -/
def Form.read (form : Form) (words : List String) : Except Stop Arguments := do
  (← words.foldlM (ArgumentReader.step form) {}).finish

/-- A word that does not begin like an option is an operand where no value is awaited. -/
theorem ArgumentReader.step_operand {form : Form} {reader : ArgumentReader} {word : String}
    (plain : isOptionWord word = false) (nothing : reader.awaiting = none) :
    reader.step form word =
      (reader.arguments.addOperand form word).map fun arguments => { reader with arguments } := by
  cases added : reader.arguments.addOperand form word <;>
    simp [step, plain, nothing, added, Except.map, bind, Except.bind, pure, Except.pure]

end SchemaAssessment.Command

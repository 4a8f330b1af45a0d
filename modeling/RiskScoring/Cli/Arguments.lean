import RiskScoring.Cli.Help

/-!
# Arguments of the command line

Three commands: `check` reads a formula, `evaluate` scores one object, `batch` scores a file of
objects. Options may come in any order, with their value in the next argument or after an equals
sign; after two hyphens nothing is an option any more. Help can be asked for at every place where
an option may stand, and counts from there on, whatever follows or is missing.
-/

namespace RiskScoring

namespace Cli

/-- The files that define what objects are scored with. -/
structure Inputs where
  dataModel : String
  scenario : String
  rows : Option String
deriving DecidableEq, Repr

/-- A command, with the paths of its files. -/
inductive Command where
  | check (formula : String)
  | evaluate (inputs : Inputs) (payload : String) (explain : Bool)
  | batch (inputs : Inputs) (payloads : String) (out : Option String)
deriving DecidableEq, Repr

/-- What a command line asks for. -/
inductive Request where
  | run (command : Command)
  | help (topic : HelpTopic)
  | version
deriving DecidableEq, Repr

/-- Why arguments are no request. -/
inductive UsageError where
  | noCommand
  | unknownCommand (name : String)
  | unexpected (argument : String)
  | missingValue (option : String)
  | missingArgument (argument : String)
  | repeated (option : String)
deriving DecidableEq, Repr

namespace UsageError

/-- The error in words. Without any command there is help instead. -/
def message : UsageError → String
  | noCommand => HelpTopic.program.text
  | unknownCommand name => s!"error: unrecognized subcommand '{name}'\n"
  | unexpected argument => s!"error: unexpected argument '{argument}' found\n"
  | missingValue option =>
    s!"error: a value is required for '{option}' but none was supplied\n"
  | missingArgument argument =>
    s!"error: the following required arguments were not provided: {argument}\n"
  | repeated option => s!"error: the argument '{option}' cannot be used multiple times\n"

end UsageError

/-- An argument split at its first equals sign. -/
def splitAssignment (argument : String) : String × Option String :=
  match argument.toList.span (· != '=') with
  | (name, _ :: value) => (String.ofList name, some (String.ofList value))
  | (_, []) => (argument, none)

/-- What the arguments of a command may be: the names of its options, which take a value, those of
its flags, which take none, and the number of its plain arguments. -/
structure Shape where
  options : List String
  flags : List String
  plain : Nat

/-- What was read of the arguments of a command: its options with their values, a flag having none,
and its plain arguments in order. -/
structure Found where
  options : List (String × Option String)
  plain : List String

namespace Found

/-- Nothing read yet. -/
def nothing : Found := ⟨[], []⟩

/-- Whether an option or a flag was read. -/
def has (found : Found) (name : String) : Bool := (found.options.map Prod.fst).contains name

/-- Adds an option with its value, or a flag. -/
def withOption (found : Found) (name : String) (value : Option String) : Found :=
  { found with options := (name, value) :: found.options }

/-- The value of an option. -/
def valueOf? (found : Found) (name : String) : Option String := (found.options.lookup name).join

/-- The value of an option that has to be there. -/
def valueOf (found : Found) (name : String) : Except UsageError String :=
  match found.valueOf? name with
  | some value => .ok value
  | none => .error (.missingArgument name)

/-- The files that define what objects are scored with. -/
def inputs (found : Found) : Except UsageError Inputs := do
  let dataModel ← found.valueOf "--data-model"
  let scenario ← found.valueOf "--scenario"
  return ⟨dataModel, scenario, found.valueOf? "--rows"⟩

end Found

namespace Shape

/-- Adds plain arguments, as many as there may be. -/
def takePlain (shape : Shape) (found : Found) : List String → Except UsageError Found
  | [] => .ok found
  | argument :: rest =>
    if found.plain.length < shape.plain then
      shape.takePlain { found with plain := found.plain ++ [argument] } rest
    else .error (.unexpected argument)

/-- Reads the arguments of a command; the result is `none` if they ask for help. `waiting` is an
option whose value comes next, and `found` holds what was read so far. An argument that starts with
a hyphen and goes on is no value of an option before it. -/
def read (shape : Shape) (waiting : Option String) (found : Found) :
    List String → Except UsageError (Option Found)
  | [] =>
    match waiting with
    | some name => .error (.missingValue name)
    | none => .ok (some found)
  | argument :: rest =>
    let hyphened := argument.startsWith "-" && argument != "-"
    match waiting with
    | some name =>
      if hyphened then .error (.missingValue name)
      else shape.read none (found.withOption name (some argument)) rest
    | none =>
      let (name, assigned) := splitAssignment argument
      if argument = "--" then (shape.takePlain found rest).map some
      else if argument = "--help" ∨ argument.startsWith "-h" then .ok none
      else if !hyphened then do
        let found ← shape.takePlain found [argument]
        shape.read none found rest
      else if found.has name then .error (.repeated name)
      else if shape.flags.contains argument then
        shape.read none (found.withOption argument none) rest
      else if shape.options.contains name then
        match assigned with
        | some value => shape.read none (found.withOption name (some value)) rest
        | none => shape.read (some name) found rest
      else .error (.unexpected argument)

end Shape

namespace Command

/-- The arguments of `check`. -/
def checkShape : Shape := ⟨[], [], 1⟩

/-- The arguments of `evaluate`. -/
def evaluateShape : Shape :=
  ⟨["--data-model", "--scenario", "--payload", "--rows"], ["--explain"], 0⟩

/-- The arguments of `batch`. -/
def batchShape : Shape := ⟨["--data-model", "--scenario", "--payloads", "--rows", "--out"], [], 0⟩

/-- The command `check`. -/
def ofCheck (found : Found) : Except UsageError Command :=
  match found.plain with
  | formula :: _ => .ok (.check formula)
  | [] => .error (.missingArgument "<FORMULA_PATH>")

/-- The command `evaluate`. -/
def ofEvaluate (found : Found) : Except UsageError Command := do
  let inputs ← found.inputs
  let payload ← found.valueOf "--payload"
  return .evaluate inputs payload (found.has "--explain")

/-- The command `batch`. -/
def ofBatch (found : Found) : Except UsageError Command := do
  let inputs ← found.inputs
  let payloads ← found.valueOf "--payloads"
  return .batch inputs payloads (found.valueOf? "--out")

end Command

namespace Request

/-- Reads the arguments of a command. -/
def ofCommand (topic : HelpTopic) (shape : Shape) (command : Found → Except UsageError Command)
    (arguments : List String) : Except UsageError Request := do
  match ← shape.read none .nothing arguments with
  | some found => return .run (← command found)
  | none => return .help topic

/-- Reads the command that help is asked about. -/
def ofHelp : List String → Except UsageError Request
  | [] => .ok (.help .program)
  | name :: rest =>
    match HelpTopic.ofName? name, rest with
    | some topic, [] => .ok (.help topic)
    | some _, other :: _ => .error (.unknownCommand other)
    | none, _ => .error (.unknownCommand name)

/-- Reads the arguments of a command line. -/
def ofArguments : List String → Except UsageError Request
  | [] => .error .noCommand
  | "check" :: arguments => ofCommand .check Command.checkShape Command.ofCheck arguments
  | "evaluate" :: arguments =>
    ofCommand .evaluate Command.evaluateShape Command.ofEvaluate arguments
  | "batch" :: arguments => ofCommand .batch Command.batchShape Command.ofBatch arguments
  | "help" :: arguments => ofHelp arguments
  | argument :: _ =>
    if argument = "--help" ∨ argument.startsWith "-h" then .ok (.help .program)
    else if argument = "--version" ∨ argument.startsWith "-V" then .ok .version
    else if argument.startsWith "-" ∧ argument ≠ "-" then .error (.unexpected argument)
    else .error (.unknownCommand argument)

end Request

end Cli

end RiskScoring

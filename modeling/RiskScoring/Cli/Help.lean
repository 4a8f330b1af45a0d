/-!
# Help

What the command line says about itself: its version, and for each topic a sentence, the form of
the command, and its arguments in columns.
-/

namespace RiskScoring

namespace Cli

/-- What help is asked about. -/
inductive HelpTopic where
  | program
  | check
  | evaluate
  | batch
  | help
deriving DecidableEq, Repr

/-- The version in words. -/
def versionText : String := "risk-engine 0.1.0\n"

namespace HelpTopic

/-- The topic of a command's name. -/
def ofName? : String → Option HelpTopic
  | "check" => some check
  | "evaluate" => some evaluate
  | "batch" => some batch
  | "help" => some help
  | _ => none

/-- The topic in a sentence. -/
def about : HelpTopic → String
  | program =>
    "A typed rule evaluation and scenario publication engine for real-time and batch risk scoring"
  | check => "Parse, validate and pretty-print a formula"
  | evaluate => "Evaluate one object against a scenario and print the decision"
  | batch => "Evaluate newline-delimited objects on the batch worker pool"
  | help => "Print this message or the help of the given subcommand(s)"

/-- The form of a command line. -/
def usage : HelpTopic → String
  | program => "risk-cli <COMMAND>"
  | check => "risk-cli check <FORMULA_PATH>"
  | evaluate => "risk-cli evaluate [OPTIONS] --data-model <DATA_MODEL> --scenario <SCENARIO> " ++
    "--payload <PAYLOAD>"
  | batch => "risk-cli batch [OPTIONS] --data-model <DATA_MODEL> --scenario <SCENARIO> " ++
    "--payloads <PAYLOADS>"
  | help => "risk-cli help [COMMAND]..."

/-- Terms with what they mean, under titles. -/
def sections : HelpTopic → List (String × List (String × String))
  | program => [
    ("Commands", [("check", check.about), ("evaluate", evaluate.about), ("batch", batch.about),
      ("help", help.about)]),
    ("Options", [("-h, --help", "Print help"), ("-V, --version", "Print version")])]
  | check => [
    ("Arguments", [("<FORMULA_PATH>", "Path to the formula JSON file")]),
    ("Options", [("-h, --help", "Print help")])]
  | evaluate => [
    ("Options", [
      ("    --data-model <DATA_MODEL>", ""),
      ("    --scenario <SCENARIO>", ""),
      ("    --payload <PAYLOAD>", ""),
      ("    --rows <ROWS>", "Optional JSON file of ingested rows, keyed by table name"),
      ("    --explain", "Print a one-line explanation of the trigger condition and every rule"),
      ("-h, --help", "Print help")])]
  | batch => [
    ("Options", [
      ("    --data-model <DATA_MODEL>", ""),
      ("    --scenario <SCENARIO>", ""),
      ("    --payloads <PAYLOADS>", "Path to a file with one JSON object per line"),
      ("    --rows <ROWS>", ""),
      ("    --out <OUT>", "Write decisions here instead of stdout"),
      ("-h, --help", "Print help")])]
  | help => [("Arguments", [("[COMMAND]...", "Print help for the subcommand(s)")])]

/-- A term in a column as wide as the widest one, and its meaning after it. -/
def row (width : Nat) (entry : String × String) : String :=
  "  " ++ entry.1 ++ String.ofList (List.replicate (width + 2 - entry.1.length) ' ') ++ entry.2 ++
    "\n"

/-- Terms in two columns under a title. -/
def columns (title : String) (entries : List (String × String)) : String :=
  let width := entries.foldl (fun width entry => max width entry.1.length) 0
  "\n" ++ title ++ ":\n" ++ String.join (entries.map (row width))

/-- The help on a topic. -/
def text (topic : HelpTopic) : String :=
  topic.about ++ "\n\nUsage: " ++ topic.usage ++ "\n" ++
    String.join (topic.sections.map fun (title, entries) => columns title entries)

end HelpTopic

end Cli

end RiskScoring

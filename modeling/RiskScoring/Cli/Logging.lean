import RiskScoring.Settings

/-!
# Log filters

The level of the log is a list of directives: a level, a target, or a target with a level after an
equals sign. A text that is none is answered with a warning, and logging stays off.
-/

namespace RiskScoring

namespace Cli

/-- The names of the levels. -/
def logLevels : List String :=
  ["off", "error", "warn", "info", "debug", "trace", "0", "1", "2", "3", "4", "5"]

/-- Whether a text is one directive. -/
def isDirective (text : String) : Bool :=
  match text.splitOn "=" with
  | [_] => true
  | [_, level] => logLevels.contains level.toLower
  | _ => false

/-- Whether a text is a list of directives. -/
def isLogFilter (text : String) : Bool := (text.splitOn ",").all isDirective

/-- The warning about the log, if there is one: a filter in the general variable `RUST_LOG` wins
over the configured one. -/
def logWarning? (general : Option String) (configured : String) : Option String :=
  if general.any isLogFilter || isLogFilter configured then none
  else some (s!"Warning: logging disabled: Invalid log level/filter '{configured}': " ++
    "invalid filter directive\n")

end Cli

end RiskScoring

import RiskScoring.Json.Reader
import RiskScoring.Text.Blank

/-!
# Settings

Four settings come from environment variables: the size of the worker pool of a batch, how often an
object is evaluated again after a failed read, how often a publication is tried again after a
conflict, and the level of the log. A variable that is not set leaves the default.
-/

namespace RiskScoring

/-- The settings of a run. -/
structure Settings where
  poolSize : Nat
  readRetries : Nat
  publicationRetries : UInt32
  logLevel : String
deriving DecidableEq, Repr

/-- A variable that should hold a number and does not. -/
structure SettingsError where
  key : String
  value : String
deriving DecidableEq, Repr

namespace SettingsError

def message (error : SettingsError) : String :=
  s!"{error.key} must be a positive integer, got '{error.value}'"

end SettingsError

namespace Settings

/-- The variable for the size of the worker pool. -/
def poolSizeVariable : String := "RISK_ENGINE_BATCH_POOL_SIZE"

/-- The variable for the evaluations after a failed read. -/
def readRetriesVariable : String := "RISK_ENGINE_BATCH_MAX_DB_RETRIES"

/-- The variable for the publications after a conflict. -/
def publicationRetriesVariable : String := "RISK_ENGINE_PUBLICATION_MAX_RETRIES"

/-- The variable for the level of the log. -/
def logLevelVariable : String := "RISK_ENGINE_LOG_LEVEL"

/-- The number that a text writes with decimal digits, a plus sign before them and white space
around them being allowed. -/
def number? (text : String) : Option Nat :=
  let digits := match trimBlanks text.toList with
    | '+' :: rest => rest
    | other => other
  if digits ≠ [] ∧ digits.all Char.isDigit then some (digitsValue digits) else none

/-- Reads a number between two bounds from a variable, if it is set. -/
def readNumber (environment : String → Option String) (key : String)
    (least greatest : Nat) : Except SettingsError (Option Nat) :=
  match environment key with
  | none => .ok none
  | some text =>
    match number? text with
    | some value =>
      if least ≤ value ∧ value ≤ greatest then .ok (some value) else .error ⟨key, text⟩
    | none => .error ⟨key, text⟩

/-- Reads the settings. The pool has one worker per processor unless its variable is set. -/
def read (environment : String → Option String) (processors : Nat) :
    Except SettingsError Settings := do
  let poolSize ← readNumber environment poolSizeVariable 1 0xffffffffffffffff
  let readRetries ← readNumber environment readRetriesVariable 0 0xffffffff
  let publicationRetries ← readNumber environment publicationRetriesVariable 0 0xffffffff
  return {
    poolSize := poolSize.getD processors
    readRetries := readRetries.getD 2
    publicationRetries := (publicationRetries.map UInt32.ofNat).getD 3
    logLevel := (environment logLevelVariable).getD "info" }

end Settings

end RiskScoring

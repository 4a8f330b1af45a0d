import RiskScoring.Scenario.Basic
import RiskScoring.Settings

/-!
# The host of a command

What a command needs from the machine it runs on. Commands are written for any monad that has a
`Host`, so that what they do can be stated without a file system or a clock.
-/

namespace RiskScoring

namespace Cli

/-- Files, the environment, a clock, and the two outputs. -/
structure Host (m : Type → Type) where
  /-- The text of a file, or why it cannot be read. -/
  readFile : String → m (Except String String)
  /-- Writes a file, or says why it cannot be written. -/
  writeFile : String → String → m (Except String Unit)
  /-- A variable of the environment. -/
  environment : String → m (Option String)
  processors : m Nat
  /-- Stamps, of which no two are equal. -/
  stamps : m (Nat → Stamp)
  /-- Nanoseconds since some point in time. -/
  clock : m Nat
  print : String → m Unit
  printError : String → m Unit

/-- Why a path leads to no file. -/
inductive PathFault where
  | missing
  | notFolder
  | isFolder
  | tooLong
deriving DecidableEq, Repr

def PathFault.message : PathFault → String
  | missing => "No such file or directory (os error 2)"
  | notFolder => "Not a directory (os error 20)"
  | isFolder => "Is a directory (os error 21)"
  | tooLong => "File name too long (os error 36)"

/-- A span of time, given in nanoseconds, in the largest unit that it fills. -/
def durationText (nanos : Nat) : String :=
  let inUnit (places : Nat) (unit : String) : String :=
    let scale := Nat.pow 10 places
    let digits := Nat.toDigits 10 (nanos % scale)
    let padded := List.replicate (places - digits.length) '0' ++ digits
    let fraction := (padded.reverse.dropWhile (· == '0')).reverse
    toString (nanos / scale) ++
      (if nanos % scale = 0 then "" else "." ++ String.ofList fraction) ++ unit
  if 1000000000 ≤ nanos then inUnit 9 "s"
  else if 1000000 ≤ nanos then inUnit 6 "ms"
  else if 1000 ≤ nanos then inUnit 3 "µs"
  else toString nanos ++ "ns"

end Cli

end RiskScoring

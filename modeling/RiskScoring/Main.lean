import RiskScoring.Cli.Run
import Std.Time.DateTime.Timestamp

/-!
# The command line program

The host of a command is the machine: its files, its environment, its clock and its outputs.
-/

namespace RiskScoring

namespace Cli

/-- Why the machine could not do something. -/
def reason : IO.Error → String
  | .noFileOrDirectory .. => PathFault.missing.message
  | .permissionDenied .. => "Permission denied (os error 13)"
  | .inappropriateType _ code _ =>
    (if code = 20 then PathFault.notFolder else PathFault.isFolder).message
  | other => toString other

/-- The outcome of an action on the machine, with the reason if it failed. -/
def attempt {α : Type} (action : IO α) : IO (Except String α) := do
  try
    return .ok (← action)
  catch error =>
    return .error (reason error)

/-- The text of a file. -/
def readText (path : String) : IO (Except String String) := do
  match ← attempt (IO.FS.readBinFile path) with
  | .ok bytes =>
    match String.fromUTF8? bytes with
    | some text => return .ok text
    | none => return .error "stream did not contain valid UTF-8"
  | .error reason => return .error reason

/-- The number of processors that the machine lists. -/
def processorCount : IO Nat := do
  match ← readText "/proc/cpuinfo" with
  | .ok text => return max 1 ((text.splitOn "\n").countP fun line => line.startsWith "processor")
  | .error _ => return 1

/-- The current time. -/
def currentTime : IO Instant := do
  let now := (← Std.Time.Timestamp.now).toNanosecondsSinceUnixEpoch.val
  return ⟨now / 1000000000, (now % 1000000000).toNat⟩

/-- Stamps with random identifiers. -/
def randomStamps : IO (Nat → Stamp) := do
  let bytes ← IO.getRandomBytes 16
  let seed := bytes.toList.foldl (fun value byte => value * 256 + byte.toNat) 0
  let now ← currentTime
  let idAt (place : Nat) : Uuid :=
    let mixed := BitVec.ofNat 128 ((seed + place) * 0x9e3779b97f4a7c15f39cc0605cedc835)
    ⟨(mixed &&& 0xffffffffffff0fff3fffffffffffffff#128) |||
      0x00000000000040008000000000000000#128⟩
  return fun n => ⟨idAt (n * 0x100000), now, fun k => idAt (n * 0x100000 + k + 1)⟩

/-- The machine as a host. -/
def machine : Host IO where
  readFile := readText
  writeFile path text := attempt (IO.FS.writeFile path text)
  environment name := IO.getEnv name
  processors := processorCount
  stamps := randomStamps
  clock := IO.monoNanosNow
  print text := do
    let output ← IO.getStdout
    output.putStr text
    output.flush
  printError text := do
    let output ← IO.getStderr
    output.putStr text
    output.flush

end Cli

end RiskScoring

/-- Runs the command line. -/
def main (arguments : List String) : IO UInt32 :=
  RiskScoring.Cli.run RiskScoring.Cli.machine arguments

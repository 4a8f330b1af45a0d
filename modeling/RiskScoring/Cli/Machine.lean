import RiskScoring.Cli.Host

/-!
# A machine in memory

A host whose files and outputs are plain values, so that what a command reads and leaves behind can
be stated and computed. Its clock stands still and it has one processor. Paths lead through folders
as usual: `.` stays, `..` goes up, and a path that starts with a slash starts at the top.
-/

namespace RiskScoring

namespace Cli

/-- A place in the tree of folders: the names that lead to it from the top. -/
abbrev Place := List String

namespace Place

/-- The folder that commands run in. -/
def home : Place := ["home"]

/-- The folders that are there without any file in them. -/
def standing : List Place := [[], home, ["dev"], ["tmp"]]

/-- The file that reads as empty whatever is written to it. -/
def void : Place := ["dev", "null"]

end Place

/-- Files by place, and what was printed so far. -/
structure Machine where
  files : Dict Place String
  output : String
  errors : String

namespace Machine

/-- The machine with files, before anything is printed. Paths are seen from the folder that commands
run in. -/
def ofFiles (files : List (String × String)) : Machine :=
  ⟨Dict.ofList (files.map fun (path, text) => (Place.home ++ path.splitOn "/", text)), "", ""⟩

/-- Whether there is a folder at a place. -/
def hasFolder (machine : Machine) (place : Place) : Bool :=
  Place.standing.contains place ||
    machine.files.keys.any fun file => place.isPrefixOf file && place != file

/-- The text of the file at a place. -/
def fileAt? (machine : Machine) (place : Place) : Option String :=
  if place = Place.void then some "" else machine.files.get? place

/-- Whether no file can have a name because of its length. -/
def isTooLong (name : String) : Bool := 255 < name.utf8ByteSize

/-- Goes from a folder through other folders. -/
def walk (machine : Machine) (place : Place) : List String → Except PathFault Place
  | [] => .ok place
  | name :: rest =>
    if name = "" ∨ name = "." then machine.walk place rest
    else if name = ".." then machine.walk place.dropLast rest
    else if isTooLong name then .error .tooLong
    else if machine.hasFolder (place ++ [name]) then machine.walk (place ++ [name]) rest
    else if (machine.fileAt? (place ++ [name])).isSome then .error .notFolder
    else .error .missing

/-- The folder that a path leads to, and its last name. -/
def locate (machine : Machine) (path : String) : Except PathFault (Place × String) :=
  if path = "" then .error .missing
  else if 4096 ≤ path.utf8ByteSize then .error .tooLong
  else do
    let names := ((path.splitOn "/").reverse.dropWhile (· == "")).reverse
    let start := if path.startsWith "/" then [] else Place.home
    return (← machine.walk start names.dropLast, names.getLastD ".")

/-- The place of a file in a folder. -/
def placeOf (machine : Machine) (folder : Place) (name : String) : Except PathFault Place :=
  if name = "." ∨ name = ".." then .error .isFolder
  else if isTooLong name then .error .tooLong
  else if machine.hasFolder (folder ++ [name]) then .error .isFolder
  else .ok (folder ++ [name])

/-- The text of a file. -/
def read (machine : Machine) (path : String) : Except PathFault String := do
  let (folder, name) ← machine.locate path
  match machine.fileAt? (← machine.placeOf folder name) with
  | some text => if path.endsWith "/" then throw .notFolder else return text
  | none => throw .missing

/-- Puts a text into a file, which may be new. -/
def write (machine : Machine) (path text : String) : Except PathFault Machine := do
  let (folder, name) ← machine.locate path
  if path.endsWith "/" then throw .isFolder
  let place ← machine.placeOf folder name
  if place = Place.void then return machine
  return { machine with files := machine.files.insert place text }

/-- The machine as a host, with an environment and stamps. -/
def host (environment : String → Option String) (stamps : Nat → Stamp) :
    Host (StateM Machine) where
  readFile path := do return ((← get).read path).mapError PathFault.message
  writeFile path text := modifyGet fun machine =>
    match machine.write path text with
    | .ok changed => (.ok (), changed)
    | .error fault => (.error fault.message, machine)
  environment name := pure (environment name)
  processors := pure 1
  stamps := pure stamps
  clock := pure 0
  print text := modify fun machine => { machine with output := machine.output ++ text }
  printError text := modify fun machine => { machine with errors := machine.errors ++ text }

end Machine

end Cli

end RiskScoring

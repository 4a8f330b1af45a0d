import RiskScoring.Decision.Codec

/-!
# Exporting decisions

Decisions are exported one to a line, each as compact JSON. What is written to may be limited in
size; then the export stops at the first piece that does not fit.
-/

namespace RiskScoring

/-- At which point the room for an export ran out. -/
inductive ExportError where
  /-- Within the text of a decision. -/
  | decision
  /-- At the end of a line. -/
  | lineEnd
deriving DecidableEq, Repr

namespace ExportError

def message : ExportError → String
  | decision => "Failed to encode decision: writer is full"
  | lineEnd => "Failed to write decision: writer is full"

end ExportError

namespace Decision

/-- The line of a decision, without its end. -/
def line (decision : Decision) : String := decision.toJson.compact

/-- The text of an export. -/
def exportText (decisions : List Decision) : String :=
  String.join (decisions.map fun decision => decision.line ++ "\n")

/-- Whether an export fits into a number of bytes. -/
def fits : Nat → List Decision → Except ExportError Unit
  | _, [] => .ok ()
  | room, decision :: rest =>
    let size := decision.line.utf8ByteSize
    if room < size then .error .decision
    else if room = size then .error .lineEnd
    else fits (room - size - 1) rest

/-- Exports decisions into limited room, or without limit: the number of lines and the text. -/
def exportLines (room : Option Nat) (decisions : List Decision) :
    Except ExportError (Nat × String) := do
  match room with
  | some room => fits room decisions
  | none => pure ()
  return (decisions.length, exportText decisions)

end Decision

end RiskScoring

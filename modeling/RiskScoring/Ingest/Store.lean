import RiskScoring.Payload
import RiskScoring.Uuid

/-!
# Ingested rows

The store keeps the rows of all organizations in the order they came. It is read inside of
transactions, which are counted, as is every field read. Reads and openings can be made to fail a
number of times, for trying out what happens then.
-/

namespace RiskScoring

/-- Why the store gives no answer. -/
inductive StorageError where
  | readFailed
  | cannotOpen
  /-- The read does not fit the data model. -/
  | model (error : ModelError)
deriving DecidableEq, Repr

namespace StorageError

def message : StorageError → String
  | readFailed => "Storage error: injected read failure"
  | cannotOpen => "Storage error: cannot open"
  | model error => s!"Storage error: {error.message}"

end StorageError

namespace Ingest

/-- A row with the organization and the table it belongs to. -/
structure StoredRow where
  organization : Uuid
  table : String
  fields : Row
deriving DecidableEq

/-- The ingested rows and the counters of the transactions and reads. -/
structure Store where
  /-- All rows, in the order of insertion. -/
  rows : List StoredRow
  /-- Field reads, failed ones included. -/
  reads : Nat
  /-- Transactions that were opened. -/
  begun : Nat
  /-- Transactions that are open. -/
  opened : Nat
  /-- Transactions that were asked for. -/
  asked : Nat
  /-- How many of the next reads fail. -/
  failingReads : Nat
  /-- How many of the next openings fail. -/
  failingOpenings : Nat

namespace Store

def empty : Store := ⟨[], 0, 0, 0, 0, 0, 0⟩

def insertRow (store : Store) (organization : Uuid) (table : String) (fields : Row) : Store :=
  { store with rows := store.rows ++ [⟨organization, table, fields⟩] }

/-- Makes the next reads fail. -/
def failReads (store : Store) (count : Nat) : Store := { store with failingReads := count }

/-- Makes the next openings fail. -/
def failOpenings (store : Store) (count : Nat) : Store := { store with failingOpenings := count }

/-- Opens a transaction. -/
def openTransaction (store : Store) : Except StorageError Unit × Store :=
  let store := { store with asked := store.asked + 1 }
  if store.failingOpenings = 0 then
    (.ok (), { store with begun := store.begun + 1, opened := store.opened + 1 })
  else (.error .cannotOpen, { store with failingOpenings := store.failingOpenings - 1 })

/-- Releases a transaction. -/
def closeTransaction (store : Store) : Store := { store with opened := store.opened - 1 }

end Store

/-- The first row of an organization's table whose field has a value. -/
def findRow (rows : List StoredRow) (organization : Uuid) (table field : String) (key : Value) :
    Option Row :=
  (rows.find? fun row =>
    row.organization == organization && row.table == table &&
      (match row.fields.get? field with
        | some value => value.equals key
        | none => false)).map StoredRow.fields

/-- Follows links from a row of a table. There is no row at the end if a link field is absent or no
row matches it. -/
def joinPath (rows : List StoredRow) (organization : Uuid) (model : DataModel) :
    Table → Row → List String → Except ModelError (Option Row)
  | _, row, [] => .ok (some row)
  | table, row, name :: rest => do
    let link ← table.link name
    match row.get? link.childField with
    | none => return none
    | some key =>
      match findRow rows organization link.table link.parentField key with
      | none => return none
      | some linked =>
        let next ← model.table link.table
        joinPath rows organization model next linked rest

/-- The field of the row that a path leads to from a payload. -/
def lookup (rows : List StoredRow) (organization : Uuid) (model : DataModel) (payload : Payload)
    (path : List String) (name : String) : Except ModelError (Option Value) := do
  let table ← model.table payload.table
  let row ← joinPath rows organization model table payload.fields path
  return row.bind fun row => row.get? name

/-- Reads a stored field inside of a transaction. -/
def Store.readField (store : Store) (organization : Uuid) (model : DataModel) (payload : Payload)
    (path : List String) (name : String) : Except StorageError (Option Value) × Store :=
  let store := { store with reads := store.reads + 1 }
  if store.failingReads = 0 then
    match lookup store.rows organization model payload path name with
    | .ok value => (.ok value, store)
    | .error error => (.error (.model error), store)
  else (.error .readFailed, { store with failingReads := store.failingReads - 1 })

end Ingest

end RiskScoring

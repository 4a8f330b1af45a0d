import RiskScoring.Formula.Basic

/-!
# Data models

A data model lists the tables of an organization, the typed fields of each table, and the links
from a table to others. A link leads from a row to the one row of the linked table whose parent
field has the value of the row's child field. Tables are found by the key they are stored under;
messages name a table by its own name.
-/

namespace RiskScoring

/-- The type of a stored field. -/
inductive DataType where
  | bool
  | int
  | float
  | string
  | timestamp
deriving DecidableEq, Repr

namespace DataType

def all : List DataType := [bool, int, float, string, timestamp]

/-- Whether a read of a declared type may read a field of this type: integers are read as doubles
and timestamps as strings. -/
def accepts : DataType → FieldType → Bool
  | bool, .bool => true
  | int, .float => true
  | float, .float => true
  | string, .string => true
  | timestamp, .string => true
  | _, _ => false

def name : DataType → String
  | bool => "Bool"
  | int => "Int"
  | float => "Float"
  | string => "String"
  | timestamp => "Timestamp"

instance : ToString DataType := ⟨name⟩

def jsonName : DataType → String
  | bool => "bool"
  | int => "int"
  | float => "float"
  | string => "string"
  | timestamp => "timestamp"

def ofJsonName? (text : String) : Option DataType := all.find? fun type => type.jsonName == text

end DataType

/-- A field of a table. -/
structure Field where
  dataType : DataType
  nullable : Bool
deriving DecidableEq, Repr

/-- A link from a table to a row of another. -/
structure Link where
  /-- The linked table. -/
  table : String
  /-- The field of the linked table that is matched. -/
  parentField : String
  /-- The field of the table the link starts from. -/
  childField : String
deriving DecidableEq, Repr

/-- A table. -/
structure Table where
  name : String
  fields : Dict String Field
  links : Dict String Link
deriving DecidableEq

/-- The tables of an organization. -/
structure DataModel where
  tables : Dict String Table
deriving DecidableEq

/-- Why something is not found in a data model. -/
inductive ModelError where
  | unknownTable (name : String)
  | unknownLink (table link : String)
  | unknownField (table field : String)
  /-- A read of a stored field has to follow a link. -/
  | emptyPath
deriving DecidableEq, Repr

namespace ModelError

def name : ModelError → String
  | unknownTable _ => "UnknownTable"
  | unknownLink .. => "UnknownLink"
  | unknownField .. => "UnknownField"
  | emptyPath => "EmptyLinkPath"

def message : ModelError → String
  | unknownTable name => s!"Table '{name}' not found in the data model"
  | unknownLink table link => s!"Link '{link}' not found on table '{table}'"
  | unknownField table field => s!"Field '{field}' not found on table '{table}'"
  | emptyPath => "Database field read has an empty link path"

end ModelError

namespace Table

/-- A table without fields and links. -/
def named (name : String) : Table := ⟨name, .empty, .empty⟩

/-- Adds a field, or replaces the one of that name. -/
def withField (table : Table) (name : String) (field : Field) : Table :=
  { table with fields := table.fields.insert name field }

/-- Adds a link, or replaces the one of that name. -/
def withLink (table : Table) (name : String) (link : Link) : Table :=
  { table with links := table.links.insert name link }

/-- The field of a name. -/
def field (table : Table) (name : String) : Except ModelError Field :=
  match table.fields.get? name with
  | some field => .ok field
  | none => .error (.unknownField table.name name)

/-- The link of a name. -/
def link (table : Table) (name : String) : Except ModelError Link :=
  match table.links.get? name with
  | some link => .ok link
  | none => .error (.unknownLink table.name name)

end Table

namespace DataModel

/-- The model of tables stored under their own names; of two tables with one name the last
counts. -/
def ofTables (tables : List Table) : DataModel :=
  ⟨Dict.ofList (tables.map fun table => (table.name, table))⟩

/-- The table of a key. -/
def table (model : DataModel) (key : String) : Except ModelError Table :=
  match model.tables.get? key with
  | some table => .ok table
  | none => .error (.unknownTable key)

/-- Checks that a link of a table joins two fields that exist. -/
def checkLink (model : DataModel) (owner : Table) (link : Link) : Except ModelError Unit := do
  let linked ← model.table link.table
  let _ ← linked.field link.parentField
  let _ ← owner.field link.childField

/-- The tables in the order of their names. -/
def sortedTables (model : DataModel) : List Table :=
  model.tables.values.mergeSort fun x y => decide (x.name ≤ y.name)

/-- The links of a table in the order of their names. -/
def sortedLinks (table : Table) : List (String × Link) :=
  table.links.entries.mergeSort fun x y => decide (x.1 ≤ y.1)

/-- Checks all links. The first fault in the order of table and link names is reported. -/
def validate (model : DataModel) : Except ModelError Unit :=
  model.sortedTables.forM fun table =>
    (sortedLinks table).forM fun entry => model.checkLink table entry.2

/-- Follows links from a table. -/
def walk (model : DataModel) : Table → List String → Except ModelError Table
  | table, [] => .ok table
  | table, name :: rest => do
    let link ← table.link name
    let next ← model.table link.table
    walk model next rest

/-- The table that a path leads to. A path has at least one link. -/
def follow (model : DataModel) (start : String) (path : List String) : Except ModelError Table :=
  if path.isEmpty then .error .emptyPath
  else do
    let table ← model.table start
    model.walk table path

/-- The field that a path and a name lead to. -/
def resolve (model : DataModel) (start : String) (path : List String) (name : String) :
    Except ModelError Field := do
  let table ← model.follow start path
  table.field name

end DataModel

end RiskScoring

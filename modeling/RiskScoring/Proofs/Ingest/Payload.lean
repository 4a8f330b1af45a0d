import RiskScoring.Payload

/-!
# Payloads are typed by their tables

* `Table.Holds`: every value of a row belongs to a field of the table and has the type of the field.
* `Payload.ofJson_get?`: a payload holds exactly what its fields read from the object.
* `Payload.ofJson_holds`: so a table holds its payloads.
-/

namespace RiskScoring

namespace DataType

/-- The type of the values of a field. -/
def valueType : DataType → ValueType
  | bool => .bool
  | int => .float
  | float => .float
  | string => .string
  | timestamp => .string

/-- A field can be read as a type if its values have that type. -/
theorem accepts_iff {dataType : DataType} {type : FieldType} :
    dataType.accepts type = true ↔ dataType.valueType = type.valueType := by
  cases dataType <;> cases type <;> decide

end DataType

/-- Every value of the row belongs to a field of the table and has the type of the field. -/
def Table.Holds (table : Table) (row : Row) : Prop :=
  ∀ ⦃name value⦄, row.get? name = some value →
    ∃ field, table.fields.get? name = some field ∧ value.type = field.dataType.valueType

namespace Payload

theorem fieldValue_type {name : String} {dataType : DataType} {given : Json} {value : Value}
    (reads : fieldValue name dataType given = .ok value) : value.type = dataType.valueType := by
  unfold fieldValue at reads
  split at reads
  · cases reads; rfl
  · cases reads; rfl
  · split at reads
    · cases reads; rfl
    · cases reads
  · cases reads; rfl
  · split at reads
    · cases reads; rfl
    · cases reads
  · cases reads

/-- A value that is read has the type of the field, and only a nullable field may be absent. -/
theorem readField_cases {object : Json} {name : String} {field : Field} {value? : Option Value}
    (reads : readField object name field = .ok value?) :
    value? = none ∧ field.nullable = true ∨
      ∃ value, value? = some value ∧ value.type = field.dataType.valueType := by
  unfold readField at reads
  split at reads
  · split at reads
    · rename_i nullable
      cases reads
      exact Or.inl ⟨rfl, nullable⟩
    · cases reads
  · split at reads
    · rename_i nullable
      cases reads
      exact Or.inl ⟨rfl, nullable⟩
    · cases reads
  · rename_i given _ _
    cases parsed : fieldValue name field.dataType given with
    | error fault =>
      rw [parsed] at reads
      cases reads
    | ok value =>
      rw [parsed] at reads
      cases reads
      exact Or.inr ⟨value, rfl, fieldValue_type parsed⟩

/-- Reading fields into a row sets those fields and no others. -/
theorem readFields_get? {object : Json} {entries : List (String × Field)} {row result : Row}
    (distinct : (entries.map Prod.fst).Nodup)
    (reads : readFields object entries row = .ok result) :
    (∀ name, name ∉ entries.map Prod.fst → result.get? name = row.get? name) ∧
      ∀ name field, (name, field) ∈ entries → row.get? name = none →
        readField object name field = .ok (result.get? name) := by
  induction entries generalizing row with
  | nil =>
    cases reads
    exact ⟨fun _ _ => rfl, fun _ _ listed => nomatch listed⟩
  | cons entry rest ih =>
    obtain ⟨first, field⟩ := entry
    rw [List.map_cons, List.nodup_cons] at distinct
    obtain ⟨notLater, distinctRest⟩ := distinct
    -- The row after the first field, and what the first field read.
    obtain ⟨value?, next, read, restReads, nextFirst, nextOther⟩ : ∃ value? next,
        readField object first field = .ok value? ∧
        readFields object rest next = .ok result ∧
        (row.get? first = none → next.get? first = value?) ∧
        ∀ name, first ≠ name → next.get? name = row.get? name := by
      cases read : readField object first field with
      | error fault =>
        rw [readFields, read] at reads
        cases reads
      | ok value? =>
        rw [readFields, read] at reads
        cases value? with
        | none => exact ⟨none, row, rfl, reads, id, fun _ _ => rfl⟩
        | some value =>
          refine ⟨some value, row.insert first value, rfl, reads, ?_, ?_⟩
          · intro _
            rw [Dict.get?_insert, if_pos rfl]
          · intro name different
            rw [Dict.get?_insert, if_neg different]
    obtain ⟨others, listed⟩ := ih distinctRest restReads
    constructor
    · intro name unlisted
      rw [List.map_cons, List.mem_cons, not_or] at unlisted
      rw [others name unlisted.2, nextOther name (Ne.symm unlisted.1)]
    · intro name field' isListed absent
      rcases List.mem_cons.mp isListed with same | later
      · cases same
        rw [others first notLater, nextFirst absent]
        exact read
      · have different : first ≠ name := by
          rintro rfl
          exact notLater (List.mem_map.mpr ⟨_, later, rfl⟩)
        exact listed name field' later (by rw [nextOther name different, absent])

variable {table : Table} {raw : Json} {payload : Payload}

theorem ofJson_eq_ok (parsed : ofJson table raw = .ok payload) :
    payload.table = table.name ∧
      readFields raw table.fields.entries .empty = .ok payload.fields := by
  unfold ofJson at parsed
  split at parsed
  · split at parsed
    · rename_i reads
      cases parsed
      exact ⟨rfl, reads⟩
    · cases parsed
  · cases parsed

/-- A payload holds what the fields of its table read, and nothing else. -/
theorem ofJson_get? (parsed : ofJson table raw = .ok payload) :
    (∀ name field, table.fields.get? name = some field →
      readField raw name field = .ok (payload.get? name)) ∧
    ∀ name, table.fields.get? name = none → payload.get? name = none := by
  obtain ⟨others, listed⟩ := readFields_get? table.fields.distinct (ofJson_eq_ok parsed).2
  constructor
  · intro name field found
    exact listed name field (Dict.mem_of_find? found) (Dict.get?_empty name)
  · intro name missing
    rw [get?, others name (Dict.find?_eq_none.mp missing)]
    exact Dict.get?_empty name

/-- A table holds its payloads. -/
theorem ofJson_holds (parsed : ofJson table raw = .ok payload) : table.Holds payload.fields := by
  obtain ⟨declared, undeclared⟩ := ofJson_get? parsed
  intro name value present
  cases found : table.fields.get? name with
  | none => cases (undeclared name found).symm.trans present
  | some field =>
    refine ⟨field, rfl, ?_⟩
    rcases readField_cases (declared name field found) with ⟨absent, -⟩ | ⟨value', same, type⟩
    · cases absent.symm.trans present
    · cases same.symm.trans present
      exact type

/-- Only a nullable field of the table can be absent from a payload. -/
theorem nullable_of_absent (parsed : ofJson table raw = .ok payload) {name : String} {field : Field}
    (found : table.fields.get? name = some field) (absent : payload.get? name = none) :
    field.nullable = true := by
  rcases readField_cases ((ofJson_get? parsed).1 name field found) with
    ⟨-, nullable⟩ | ⟨value, present, -⟩
  · exact nullable
  · cases absent.symm.trans present

end Payload

end RiskScoring

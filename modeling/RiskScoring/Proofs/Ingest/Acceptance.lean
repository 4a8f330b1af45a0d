import RiskScoring.Proofs.Checks
import RiskScoring.Proofs.Ingest.Payload

/-!
# Which JSON values are payloads

The fields of a table say which objects are its payloads, each for itself. The order in which they
are read decides which of several faults is reported, and nothing else. What an object has under
names that the table does not declare decides nothing.

* `DataType.Takes`, `Field.Allows`: what a field may find under its name, and what it holds then.
* `Payload.fault?`, `Payload.ofJson_reports`: fields are read up to the first fault.
* `Payload.ofJson_get?_iff`: the values of a payload.
* `Payload.SameAs`: payloads whose fields come in different orders.
* `Payload.ofJson_exact`: the statement for every table and every JSON value.
-/

namespace RiskScoring

/-- A field of the type takes a JSON value, and holds the value that it stands for. -/
inductive DataType.Takes : DataType → Json → Value → Prop
  | bool (value : Bool) : Takes .bool (.bool value) (.bool value)
  | float (number : JsonNumber) : Takes .float (.number number) (.float number.toFloat)
  /-- An integer of 64 bits, with or without a sign. -/
  | int (value : Int) (fits : -0x8000000000000000 ≤ value ∧ value < 0x10000000000000000) :
    Takes .int (.number (.int value fits)) (.float (JsonNumber.int value fits).toFloat)
  | string (text : String) : Takes .string (.string text) (.string text)
  | timestamp {text : String} {time : Instant} (reads : Instant.ofRfc3339 text = .ok time) :
    Takes .timestamp (.string text) (.string text)

/-- What a field may find under its name in an object, and what it holds then. -/
inductive Field.Allows (field : Field) : Option Json → Option Value → Prop
  | absent (nullable : field.nullable = true) : Allows field none none
  | null (nullable : field.nullable = true) : Allows field (some .null) none
  | present {given : Json} {value : Value} (takes : field.dataType.Takes given value) :
    Allows field (some given) (some value)

/-- What a field allows in an object. -/
theorem Field.allows_iff {field : Field} {given? : Option Json} :
    (∃ value?, field.Allows given? value?) ↔
      (given? = none ∨ given? = some .null) ∧ field.nullable = true ∨
        ∃ given value, given? = some given ∧ field.dataType.Takes given value := by
  constructor
  · intro allowed
    obtain ⟨value?, allows⟩ := allowed
    cases allows with
    | absent nullable => exact Or.inl ⟨Or.inl rfl, nullable⟩
    | null nullable => exact Or.inl ⟨Or.inr rfl, nullable⟩
    | present takes => exact Or.inr ⟨_, _, rfl, takes⟩
  · intro allowed
    rcases allowed with ⟨isAbsent | isNull, nullable⟩ | ⟨given, value, isGiven, takes⟩
    · exact ⟨none, isAbsent ▸ .absent nullable⟩
    · exact ⟨none, isNull ▸ .null nullable⟩
    · exact ⟨some value, isGiven ▸ .present takes⟩

namespace DataType.Takes

variable {dataType : DataType} {given : Json} {value : Value}

theorem ne_null (takes : dataType.Takes given value) : given ≠ .null := by
  intro isNull
  subst isNull
  cases takes

/-- A field holds values of the one type that it may be read as. -/
theorem accepts_iff (takes : dataType.Takes given value) (type : FieldType) :
    dataType.accepts type = true ↔ value.type = type.valueType := by
  have hasType : value.type = dataType.valueType := by
    cases takes <;> rfl
  rw [DataType.accepts_iff, hasType]

end DataType.Takes

namespace Payload

/-! ## Fields -/

theorem fieldValue_eq_ok {name : String} {dataType : DataType} {given : Json} {value : Value} :
    fieldValue name dataType given = .ok value ↔ dataType.Takes given value := by
  constructor
  · intro reads
    unfold fieldValue at reads
    split at reads
    · cases reads
      exact .bool _
    · cases reads
      exact .float _
    · rename_i number
      cases number with
      | int word fits =>
        cases reads
        exact .int word fits
      | float double finite => cases reads
    · cases reads
      exact .string _
    · split at reads
      · rename_i time isTime
        cases reads
        exact .timestamp isTime
      · cases reads
    · cases reads
  · intro takes
    cases takes with
    | timestamp reads => simp only [fieldValue, reads]
    | _ => rfl

theorem readField_eq_ok {object : Json} {name : String} {field : Field} {value? : Option Value} :
    readField object name field = .ok value? ↔ field.Allows (object.get? name) value? := by
  unfold readField
  constructor
  · intro reads
    split at reads
    · rename_i isAbsent
      split at reads
      · rename_i nullable
        cases reads
        rw [isAbsent]
        exact .absent nullable
      · cases reads
    · rename_i isNull
      split at reads
      · rename_i nullable
        cases reads
        rw [isNull]
        exact .null nullable
      · cases reads
    · rename_i given _ isGiven
      rw [isGiven]
      cases parsed : fieldValue name field.dataType given with
      | error fault =>
        rw [parsed] at reads
        cases reads
      | ok value =>
        rw [parsed] at reads
        cases reads
        exact .present (fieldValue_eq_ok.mp parsed)
  · intro allows
    generalize object.get? name = found at allows
    cases allows with
    | absent nullable => exact if_pos nullable
    | null nullable => exact if_pos nullable
    | @present given value takes =>
      have read : fieldValue name field.dataType given = .ok value := fieldValue_eq_ok.mpr takes
      cases given with
      | null => exact absurd rfl takes.ne_null
      | _ => exact congrArg (Except.map some) read

/-! ## Faults -/

/-- What is wrong with a field of an object, if something is. -/
def fault? (object : Json) (entry : String × Field) : Option PayloadFault :=
  match readField object entry.1 entry.2 with
  | .ok _ => none
  | .error fault => some fault

theorem fault?_eq_none {object : Json} {entry : String × Field} :
    fault? object entry = none ↔ ∃ value?, entry.2.Allows (object.get? entry.1) value? := by
  simp only [← readField_eq_ok, fault?]
  cases readField object entry.1 entry.2 with
  | error fault => simp
  | ok value? => simp

/-- Fields are read up to the first one with a fault. -/
theorem readFields_reports (object : Json) (entries : List (String × Field)) (row : Row) :
    Except.Reports (entries.filterMap (fault? object)) (readFields object entries row) := by
  induction entries generalizing row with
  | nil => exact .ok row
  | cons entry rest ih =>
    rw [List.filterMap_cons]
    cases read : readField object entry.1 entry.2 with
    | error fault =>
      simp only [fault?, readFields, read]
      exact rfl
    | ok value? =>
      simp only [fault?, readFields, read]
      cases value? with
      | none => exact ih row
      | some value => exact ih (row.insert entry.1 value)

/-- What is wrong with a JSON value as a payload, in the order in which it is found. -/
def faults (table : Table) (raw : Json) : List PayloadFault :=
  match raw with
  | .object _ => table.fields.entries.filterMap (fault? raw)
  | _ => [.notObject]

/-- The first fault is reported, with the name of the table. -/
theorem ofJson_reports (table : Table) (raw : Json) :
    Except.Reports ((faults table raw).map (PayloadError.mk table.name)) (ofJson table raw) := by
  cases raw with
  | object members =>
    have reports := readFields_reports (.object members) table.fields.entries .empty
    rw [faults, ofJson]
    generalize table.fields.entries.filterMap (fault? (.object members)) = found at reports ⊢
    cases found with
    | nil =>
      obtain ⟨row, reads⟩ := reports
      rw [reads]
      exact .ok _
    | cons fault rest =>
      have stops : readFields (.object members) table.fields.entries .empty = .error fault :=
        reports
      rw [stops]
      exact rfl
  | _ => exact rfl

variable {table : Table} {raw : Json} {payload : Payload}

theorem faults_eq_nil :
    faults table raw = [] ↔ ∃ members, raw = .object members ∧
      ∀ name field, table.fields.get? name = some field →
        ∃ value?, field.Allows (raw.get? name) value? := by
  cases raw with
  | object members =>
    simp only [faults, List.filterMap_eq_nil_iff, fault?_eq_none, Json.object.injEq,
      exists_eq_left', Dict.get?_eq_some, Prod.forall]
  | _ => simp [faults]

theorem ofJson_isOk_iff :
    (∃ payload, ofJson table raw = .ok payload) ↔ ∃ members, raw = .object members ∧
      ∀ name field, table.fields.get? name = some field →
        ∃ value?, field.Allows (raw.get? name) value? := by
  rw [(ofJson_reports table raw).exists_ok_iff, List.map_eq_nil_iff, faults_eq_nil]

/-! ## Values -/

theorem ofJson_raw (parsed : ofJson table raw = .ok payload) : payload.raw = raw := by
  unfold ofJson at parsed
  split at parsed
  · split at parsed
    · cases parsed
      rfl
    · cases parsed
  · cases parsed

/-- A payload holds a value exactly if a field is declared that takes what the object has under its
name. -/
theorem ofJson_get?_iff (parsed : ofJson table raw = .ok payload) {name : String} {value : Value} :
    payload.get? name = some value ↔ ∃ field given, table.fields.get? name = some field ∧
      raw.get? name = some given ∧ field.dataType.Takes given value := by
  obtain ⟨declared, undeclared⟩ := ofJson_get? parsed
  cases found : table.fields.get? name with
  | none => simp [undeclared name found]
  | some field =>
    have reads : readField raw name field = .ok (payload.get? name) := declared name field found
    constructor
    · intro isValue
      rw [isValue, readField_eq_ok] at reads
      generalize raw.get? name = given? at reads ⊢
      cases reads with
      | present takes => exact ⟨field, _, rfl, rfl, takes⟩
    · intro taken
      obtain ⟨same, given, isField, isGiven, takes⟩ := taken
      cases isField
      have allows : field.Allows (raw.get? name) (some value) := by
        rw [isGiven]
        exact .present takes
      rw [readField_eq_ok.mpr allows] at reads
      exact (Except.ok.inj reads).symm

/-- The fields that are present are those that are declared and for which the object has a value
other than `null`. -/
theorem isSome_get?_iff (parsed : ofJson table raw = .ok payload) {name : String} :
    (payload.get? name).isSome = true ↔ ∃ field given, table.fields.get? name = some field ∧
      raw.get? name = some given ∧ given ≠ .null := by
  rw [Option.isSome_iff_exists]
  constructor
  · intro present
    obtain ⟨value, isValue⟩ := present
    obtain ⟨field, given, found, isGiven, takes⟩ := (ofJson_get?_iff parsed).mp isValue
    exact ⟨field, given, found, isGiven, takes.ne_null⟩
  · intro isGiven
    obtain ⟨field, given, found, isGiven, notNull⟩ := isGiven
    have allows := readField_eq_ok.mp ((ofJson_get? parsed).1 name field found)
    rw [isGiven] at allows
    generalize payload.get? name = value? at allows ⊢
    cases allows with
    | null => exact absurd rfl notNull
    | present takes => exact ⟨_, rfl⟩

/-! ## Other orders and other members -/

/-- The payloads are the same, in whatever order their fields come. -/
structure SameAs (one other : Payload) : Prop where
  table : one.table = other.table
  fields : one.fields.entries.Perm other.fields.entries
  raw : one.raw = other.raw

/-- A table that yields its fields in another order makes the same payload. -/
theorem ofJson_reordered (parsed : ofJson table raw = .ok payload) {other : Table}
    (sameName : other.name = table.name)
    (reordered : other.fields.entries.Perm table.fields.entries) :
    ∃ result, ofJson other raw = .ok result ∧ result.SameAs payload := by
  have sameFields : ∀ name, other.fields.get? name = table.fields.get? name :=
    Dict.perm_iff.mp reordered
  have accepted : ∃ result, ofJson other raw = .ok result := by
    have accepts : ∃ payload, ofJson table raw = .ok payload := ⟨payload, parsed⟩
    rw [ofJson_isOk_iff] at accepts ⊢
    simpa only [sameFields] using accepts
  obtain ⟨result, parsedOther⟩ := accepted
  refine ⟨result, parsedOther, ?_, Dict.perm_iff.mpr fun name => Option.ext fun value => ?_, ?_⟩
  · rw [(ofJson_eq_ok parsedOther).1, (ofJson_eq_ok parsed).1, sameName]
  · refine (ofJson_get?_iff parsedOther).trans ?_
    simp only [sameFields]
    exact (ofJson_get?_iff parsed).symm
  · rw [ofJson_raw parsedOther, ofJson_raw parsed]

/-- Fields are read alike from objects that have the same under their names. -/
theorem readFields_congr {object other : Json} {entries : List (String × Field)} (row : Row)
    (same : ∀ entry ∈ entries, other.get? entry.1 = object.get? entry.1) :
    readFields other entries row = readFields object entries row := by
  induction entries generalizing row with
  | nil => rfl
  | cons entry rest ih =>
    rw [List.forall_mem_cons] at same
    have first : readField other entry.1 entry.2 = readField object entry.1 entry.2 := by
      rw [readField, readField, same.1]
    simp only [readFields, first, ih _ same.2]

/-- What an object has under undeclared names changes its payload in the raw object only. -/
theorem ofJson_congr {members others : List (String × Json)}
    (same : ∀ name field, table.fields.get? name = some field →
      (Json.object others).get? name = (Json.object members).get? name) :
    ofJson table (.object others) =
      (ofJson table (.object members)).map fun payload =>
        { payload with raw := .object others } := by
  have reads : readFields (.object others) table.fields.entries .empty =
      readFields (.object members) table.fields.entries .empty := by
    refine readFields_congr .empty fun entry listed => ?_
    exact same entry.1 entry.2 (Dict.get?_eq_some.mpr listed)
  rw [ofJson, ofJson, reads]
  cases readFields (.object members) table.fields.entries .empty <;> rfl

/-- For every table and every JSON value: the value is a payload exactly if it is an object in which
every declared field is absent or `null` and nullable, or has a value of its type. The payload has
the name of the table and the value as it is. Its fields are the declared ones that the object has a
value other than `null` for; each holds what that stands for, which is of the one type that the
field may be read as. A table with the same fields in another order makes the same payload, and an
object with other members under undeclared names has the same fields, or the same fault. -/
theorem ofJson_exact (table : Table) (raw : Json) :
    ((∃ payload, ofJson table raw = .ok payload) ↔ ∃ members, raw = .object members ∧
      ∀ name field, table.fields.get? name = some field →
        ((raw.get? name = none ∨ raw.get? name = some .null) ∧ field.nullable = true ∨
          ∃ given value, raw.get? name = some given ∧ field.dataType.Takes given value)) ∧
    (∀ payload, ofJson table raw = .ok payload →
      payload.table = table.name ∧ payload.raw = raw ∧
      (∀ name, (payload.get? name).isSome = true ↔ ∃ field given,
        table.fields.get? name = some field ∧ raw.get? name = some given ∧ given ≠ .null) ∧
      (∀ name value, payload.get? name = some value → ∃ field given,
        table.fields.get? name = some field ∧ raw.get? name = some given ∧
        field.dataType.Takes given value ∧
        ∀ type, field.dataType.accepts type = true ↔ value.type = type.valueType) ∧
      ∀ other : Table, other.name = table.name →
        other.fields.entries.Perm table.fields.entries →
        ∃ result, ofJson other raw = .ok result ∧ result.SameAs payload) ∧
    ∀ members others, raw = .object members →
      (∀ name field, table.fields.get? name = some field →
        (Json.object others).get? name = raw.get? name) →
      ofJson table (.object others) =
        (ofJson table raw).map fun payload => { payload with raw := .object others } := by
  refine ⟨?_, fun payload parsed => ⟨(ofJson_eq_ok parsed).1, ofJson_raw parsed,
    fun name => isSome_get?_iff parsed, ?_, fun other sameName reordered =>
      ofJson_reordered parsed sameName reordered⟩, ?_⟩
  · rw [ofJson_isOk_iff]
    simp only [Field.allows_iff]
  · intro name value present
    obtain ⟨field, given, found, isGiven, takes⟩ := (ofJson_get?_iff parsed).mp present
    exact ⟨field, given, found, isGiven, takes, takes.accepts_iff⟩
  · intro members others isObject same
    subst isObject
    exact ofJson_congr same

end Payload

namespace Shop

/-- Deliveries, with a field of each type. -/
def deliveries : Table where
  name := "deliveries"
  fields := ⟨[("express", ⟨.bool, false⟩), ("weight", ⟨.float, true⟩), ("parcels", ⟨.int, false⟩),
    ("street", ⟨.string, true⟩), ("due", ⟨.timestamp, false⟩)], by decide⟩
  links := .empty

/-- The table of deliveries with its fields in the opposite order. -/
def deliveriesReversed : Table :=
  { deliveries with fields := ⟨deliveries.fields.entries.reverse, by decide⟩ }

/-- What a delivery says under the names that are declared. -/
def delivery : List (String × Json) :=
  [("due", .string "2024-05-01T10:00:00+02:00"), ("weight", .null), ("express", .bool true),
    ("parcels", .number (.int 18446744073709551615 (by decide)))]

/-- The delivery with a note, for which the table has no field. -/
def deliveryWithNote : Json := .object (delivery ++ [("note", .array [])])

theorem deliveryWithNote_fits (name : String) (field : Field)
    (found : deliveries.fields.get? name = some field) :
    (deliveryWithNote.get? name = none ∨ deliveryWithNote.get? name = some .null) ∧
        field.nullable = true ∨
      ∃ given value, deliveryWithNote.get? name = some given ∧
        field.dataType.Takes given value := by
  have listed := Dict.get?_eq_some.mp found
  simp only [deliveries, List.mem_cons, Prod.mk.injEq, List.not_mem_nil, or_false] at listed
  rcases listed with ⟨rfl, rfl⟩ | ⟨rfl, rfl⟩ | ⟨rfl, rfl⟩ | ⟨rfl, rfl⟩ | ⟨rfl, rfl⟩
  · exact Or.inr ⟨_, _, rfl, .bool true⟩
  · exact Or.inl ⟨Or.inr rfl, rfl⟩
  · exact Or.inr ⟨_, _, rfl, .int 18446744073709551615 (by decide)⟩
  · exact Or.inl ⟨Or.inl rfl, rfl⟩
  · have reads : ∃ time, Instant.ofRfc3339 "2024-05-01T10:00:00+02:00" = .ok time := ⟨_, by rfl⟩
    obtain ⟨time, isTime⟩ := reads
    exact Or.inr ⟨_, _, rfl, .timestamp isTime⟩

/-- The delivery with the note is accepted. The weight, which is `null`, and the note are no fields
of the payload, and the due time is the string that was given. The opposite order of the fields
makes the same payload, and without the note the delivery has the same fields. -/
theorem ofJson_exact_delivery :
    ∃ payload, Payload.ofJson deliveries deliveryWithNote = .ok payload ∧
      (payload.get? "weight").isSome = false ∧ (payload.get? "note").isSome = false ∧
      payload.get? "due" = some (.string "2024-05-01T10:00:00+02:00") ∧
      (∃ result, Payload.ofJson deliveriesReversed deliveryWithNote = .ok result ∧
        result.SameAs payload) ∧
      Payload.ofJson deliveries (.object delivery) =
        .ok { payload with raw := .object delivery } := by
  obtain ⟨accepts, describes, ignores⟩ := Payload.ofJson_exact deliveries deliveryWithNote
  obtain ⟨payload, parsed⟩ := accepts.mpr ⟨_, rfl, deliveryWithNote_fits⟩
  obtain ⟨-, -, presence, values, reordered⟩ := describes payload parsed
  have isDue : (payload.get? "due").isSome = true :=
    (presence "due").mpr ⟨⟨.timestamp, false⟩, _, rfl, rfl, by simp⟩
  obtain ⟨value, present⟩ := Option.isSome_iff_exists.mp isDue
  refine ⟨payload, parsed, ?_, ?_, ?_, reordered deliveriesReversed rfl (List.reverse_perm _), ?_⟩
  · rw [Bool.eq_false_iff, ne_eq, presence]
    intro isGiven
    obtain ⟨field, given, -, isNull, notNull⟩ := isGiven
    exact notNull (Option.some.inj isNull).symm
  · rw [Bool.eq_false_iff, ne_eq, presence]
    intro isDeclared
    obtain ⟨field, given, found, -⟩ := isDeclared
    cases found
  · obtain ⟨field, given, found, isGiven, takes, -⟩ := values "due" value present
    cases found
    cases isGiven
    cases takes
    exact present
  · rw [ignores _ delivery rfl, parsed]
    · rfl
    · intro name field found
      have listed := Dict.get?_eq_some.mp found
      simp only [deliveries, List.mem_cons, Prod.mk.injEq, List.not_mem_nil, or_false] at listed
      rcases listed with ⟨rfl, -⟩ | ⟨rfl, -⟩ | ⟨rfl, -⟩ | ⟨rfl, -⟩ | ⟨rfl, -⟩ <;> rfl

end Shop

end RiskScoring

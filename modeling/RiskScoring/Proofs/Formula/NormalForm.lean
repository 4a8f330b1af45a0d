import RiskScoring.Proofs.Finite
import RiskScoring.Proofs.Formula.Records

/-!
# Normal forms of records

Many records stand for one formula: static data may have keys that nothing reads, a number may be
written as an integer, and a leaf may have an empty row of children. `OperatorRecord.normal` leaves
all of that out, record by record and without decoding anything.

* `Operator.assembled_of_ok`: what a node is made of, and what of its static data counts.
* `Expression.writes_of_ofRecord`: a formula is written as the normal form of each of its records.
* `Expression.ofRecord_eq_iff_normal`: the statement.
-/

namespace RiskScoring

/-! ## Normal forms -/

/-- A value of static data as it is written: numbers are doubles. -/
def Json.rounded : Json → Json
  | .number value => .ofFloat value.toFloat
  | value => value

namespace Operator

/-- Whether the operator has no operands. -/
def isLeaf : Operator → Bool
  | not => false
  | binary _ => false
  | variadic _ => false
  | _ => true

/-- The keys of the static data that the operator reads. -/
def dataKeys : Operator → List String
  | string => ["value"]
  | float => ["value"]
  | stringList => ["value"]
  | payload _ => ["fieldName"]
  | stored _ => ["path", "fieldName"]
  | _ => []

/-- What the operator reads of the static data, if it reads any. -/
def normalData (op : Operator) (data : Option (List (String × Json))) :
    Option (List (String × Json)) :=
  if op.dataKeys.isEmpty then none
  else some (op.dataKeys.filterMap fun key =>
    (data.bind (Dict.find? key)).map fun value => (key, value.rounded))

end Operator

namespace OperatorRecord

mutual

/-- The record without what decoding passes over. A record of an unknown operator stays as it is. -/
def normal : OperatorRecord → OperatorRecord
  | node type data children =>
    match Operator.ofName? type with
    | none => node type data children
    | some op =>
      node type (op.normalData data) (if op.isLeaf then none else normalChildren children)

/-- The normal forms of the children, if there is a row of them. -/
def normalChildren : Option (List (Option OperatorRecord)) → Option (List (Option OperatorRecord))
  | none => none
  | some slots => some (normalSlots slots)

/-- The normal forms of a row of slots. -/
def normalSlots : List (Option OperatorRecord) → List (Option OperatorRecord)
  | [] => []
  | slot :: rest => normalSlot slot :: normalSlots rest

/-- The normal form in a slot. -/
def normalSlot : Option OperatorRecord → Option OperatorRecord
  | none => none
  | some record => some (normal record)

end

/-- Decodes a record and writes the formula again. -/
def recode (record : OperatorRecord) : Except RecordError OperatorRecord :=
  (Expression.ofRecord record).map Expression.toRecord

end OperatorRecord

/-! ## Nodes -/

theorem Operator.name_of_ofName? {text : String} {op : Operator} (named : ofName? text = some op) :
    op.name = text := by
  have same := List.find?_some named
  exact eq_of_beq same

namespace StaticData

variable {data : Option (List (String × Json))} {key : String}

theorem get_eq_ok {value : Json} :
    get data key = .ok value ↔ data.bind (Dict.find? key) = some value := by
  unfold get
  cases data.bind (Dict.find? key) with
  | none => simp
  | some stored => simp

/-- A string is read from a string. -/
theorem find?_of_getString {value : String} (reads : getString data key = .ok value) :
    data.bind (Dict.find? key) = some (.string value) := by
  unfold getString at reads
  cases found : get data key with
  | error fault =>
    rw [found] at reads
    cases reads
  | ok json =>
    rw [found] at reads
    cases json with
    | string text =>
      cases reads
      exact get_eq_ok.mp found
    | _ => cases reads

/-- A double is read from a number. -/
theorem find?_of_getFloat {value : Float} (reads : getFloat data key = .ok value) :
    ∃ number : JsonNumber, data.bind (Dict.find? key) = some (.number number) ∧
      number.toFloat = value := by
  unfold getFloat at reads
  cases found : get data key with
  | error fault =>
    rw [found] at reads
    cases reads
  | ok json =>
    rw [found] at reads
    cases json with
    | number number =>
      cases reads
      exact ⟨number, get_eq_ok.mp found, rfl⟩
    | _ => cases reads

end StaticData

theorem Value.map_of_strings? {items : List Json} {strings : List String}
    (reads : strings? items = some strings) : items = strings.map Json.string := by
  induction items generalizing strings with
  | nil =>
    cases reads
    rfl
  | cons item rest ih =>
    cases item with
    | string text =>
      rw [strings?, Option.map_eq_some_iff] at reads
      obtain ⟨others, readsRest, rfl⟩ := reads
      rw [ih readsRest, List.map_cons]
    | _ => cases reads

/-- A list of strings is read from an array of strings. -/
theorem StaticData.find?_of_getStrings {data : Option (List (String × Json))} {key : String}
    {strings : List String} (reads : getStrings data key = .ok strings) :
    data.bind (Dict.find? key) = some (Json.ofStrings strings) := by
  unfold getStrings at reads
  cases found : get data key with
  | error fault =>
    rw [found] at reads
    cases reads
  | ok json =>
    rw [found] at reads
    cases json with
    | array items =>
      cases all : Value.strings? items with
      | none =>
        simp only [bind, Except.bind, all] at reads
        cases reads
      | some texts =>
        simp only [bind, Except.bind, all] at reads
        cases reads
        rw [get_eq_ok.mp found, Value.map_of_strings? all]
        rfl
    | _ => cases reads

namespace Operator

/-- What a node of a formula is made of: the operator, the part of the static data that it reads,
and its operands. -/
structure Assembled (op : Operator) (data : Option (List (String × Json)))
    (operands : Option (List (Option Expression))) (formula : Expression) : Prop where
  operator : formula.operator = op
  data : op.normalData data =
    if formula.staticData.isEmpty then none else some formula.staticData
  operands : op.isLeaf = false → operands = some formula.operands
  finite : op.isLeaf = true → ∀ value ∈ formula.floats, value.isFinite = true

variable {op : Operator} {data : Option (List (String × Json))}
  {operands : Option (List (Option Expression))} {formula : Expression}

/-- A leaf has no operands to account for. -/
theorem Assembled.ofLeaf (isLeaf : op.isLeaf = true) (operator : formula.operator = op)
    (dataRead : op.normalData data =
      if formula.staticData.isEmpty then none else some formula.staticData)
    (finite : ∀ value ∈ formula.floats, value.isFinite = true) :
    op.Assembled data operands formula :=
  ⟨operator, dataRead, fun isInner => absurd (isLeaf.symm.trans isInner) (by decide),
    fun _ => finite⟩

/-- An inner node has no double of its own. -/
theorem Assembled.ofInner (isInner : op.isLeaf = false) (operator : formula.operator = op)
    (dataRead : op.normalData data =
      if formula.staticData.isEmpty then none else some formula.staticData)
    (filled : operands = some formula.operands) : op.Assembled data operands formula :=
  ⟨operator, dataRead, fun _ => filled,
    fun isLeaf => absurd (isInner.symm.trans isLeaf) (by decide)⟩

theorem normalData_single {key : String} {value : Json} (keys : op.dataKeys = [key])
    (found : data.bind (Dict.find? key) = some value) :
    op.normalData data = some [(key, value.rounded)] := by
  simp only [normalData, keys, List.filterMap_cons, found]
  rfl

theorem assembled_of_ok (assembles : op.assemble data operands = .ok formula) :
    op.Assembled data operands formula := by
  cases op with
  | bool value =>
    obtain ⟨_, -, built⟩ := Except.bind_eq_ok_iff.mp assembles
    cases built
    exact .ofLeaf rfl rfl rfl (by simp [Expression.floats])
  | string =>
    obtain ⟨_, -, rest⟩ := Except.bind_eq_ok_iff.mp assembles
    obtain ⟨value, reads, built⟩ := Except.bind_eq_ok_iff.mp rest
    cases built
    exact .ofLeaf rfl rfl (normalData_single rfl (StaticData.find?_of_getString reads))
      (by simp [Expression.floats])
  | float =>
    obtain ⟨_, -, rest⟩ := Except.bind_eq_ok_iff.mp assembles
    obtain ⟨value, reads, built⟩ := Except.bind_eq_ok_iff.mp rest
    cases built
    obtain ⟨number, found, rfl⟩ := StaticData.find?_of_getFloat reads
    have finite := number.isFinite_toFloat
    refine .ofLeaf rfl rfl (normalData_single rfl found) ?_
    simpa [Expression.floats] using finite
  | stringList =>
    obtain ⟨_, -, rest⟩ := Except.bind_eq_ok_iff.mp assembles
    obtain ⟨items, reads, built⟩ := Except.bind_eq_ok_iff.mp rest
    cases built
    exact .ofLeaf rfl rfl (normalData_single rfl (StaticData.find?_of_getStrings reads))
      (by simp [Expression.floats])
  | payload type =>
    obtain ⟨_, -, rest⟩ := Except.bind_eq_ok_iff.mp assembles
    obtain ⟨name, reads, built⟩ := Except.bind_eq_ok_iff.mp rest
    cases built
    exact .ofLeaf rfl rfl (normalData_single rfl (StaticData.find?_of_getString reads))
      (by simp [Expression.floats])
  | stored type =>
    obtain ⟨_, -, rest⟩ := Except.bind_eq_ok_iff.mp assembles
    obtain ⟨path, readsPath, more⟩ := Except.bind_eq_ok_iff.mp rest
    obtain ⟨name, readsName, built⟩ := Except.bind_eq_ok_iff.mp more
    cases built
    have foundPath := StaticData.find?_of_getStrings readsPath
    have foundName := StaticData.find?_of_getString readsName
    refine .ofLeaf rfl rfl ?_ (by simp [Expression.floats])
    simp only [normalData, dataKeys, List.filterMap_cons, foundPath, foundName]
    rfl
  | not =>
    simp only [assemble] at assembles
    split at assembles
    · cases assembles
      exact .ofInner rfl rfl rfl rfl
    · cases assembles
  | binary op =>
    simp only [assemble] at assembles
    split at assembles
    · cases assembles
      exact .ofInner rfl rfl rfl rfl
    · cases assembles
  | variadic op =>
    unfold assemble at assembles
    cases operands with
    | none => cases assembles
    | some slots =>
      cases assembles
      exact .ofInner rfl rfl rfl rfl

end Operator

/-! ## Formulas -/

namespace Expression

/-- The record of a formula: its operator, its static data and the records of its operands. -/
theorem toRecord_eq (formula : Expression) :
    formula.toRecord =
      formula.recordWith
        (if formula.operator.isLeaf then none else some (toSlots formula.operands)) := by
  cases formula <;> rfl

/-- A node with operands has no literal doubles of its own. -/
theorem floats_of_operands {formula : Expression} (hasOperands : formula.operator.isLeaf = false) :
    formula.floats = floatsSlots formula.operands := by
  cases formula with
  | not operand => simp [floats, operands, floatsSlots]
  | binary op left right => simp [floats, operands, floatsSlots]
  | variadic op operands => simp [floats, Expression.operands]
  | _ => cases hasOperands

theorem ofRecord_eq_ok {type : String} {data : Option (List (String × Json))}
    {children : Option (List (Option OperatorRecord))} {formula : Expression}
    (decodes : ofRecord (.node type data children) = .ok formula) :
    ∃ op operands, Operator.ofName? type = some op ∧ ofChildren children = .ok operands ∧
      op.assemble data operands = .ok formula := by
  rw [ofRecord] at decodes
  cases named : Operator.ofName? type with
  | none =>
    simp only [named] at decodes
    cases decodes
  | some op =>
    simp only [named] at decodes
    obtain ⟨operands, decodesChildren, rest⟩ := Except.bind_eq_ok_iff.mp decodes
    refine ⟨op, operands, rfl, decodesChildren, ?_⟩
    cases assembled : op.assemble data operands with
    | error fault =>
      rw [assembled] at rest
      cases rest
    | ok built =>
      rw [assembled] at rest
      cases rest
      rfl

theorem ofChildren_eq_some {children : Option (List (Option OperatorRecord))}
    {slots : List (Option Expression)} (decodes : ofChildren children = .ok (some slots)) :
    ∃ records, children = some records ∧ ofSlots records = .ok slots := by
  cases children with
  | none => cases decodes
  | some records =>
    rw [ofChildren] at decodes
    cases decoded : ofSlots records with
    | error error =>
      rw [decoded] at decodes
      cases decodes
    | ok found =>
      rw [decoded] at decodes
      cases decodes
      exact ⟨records, rfl, decoded⟩

theorem ofSlots_cons_eq_ok {record : Option OperatorRecord} {records : List (Option OperatorRecord)}
    {slots : List (Option Expression)} (decodes : ofSlots (record :: records) = .ok slots) :
    ∃ slot rest, slots = slot :: rest ∧ ofSlot record = .ok slot ∧ ofSlots records = .ok rest := by
  rw [ofSlots] at decodes
  obtain ⟨slot, first, goesOn⟩ := Except.bind_eq_ok_iff.mp decodes
  obtain ⟨rest, others, built⟩ := Except.bind_eq_ok_iff.mp goesOn
  cases built
  exact ⟨slot, rest, rfl, first, others⟩

theorem ofSlot_some_eq_ok {record : OperatorRecord} {slot : Option Expression}
    (decodes : ofSlot (some record) = .ok slot) :
    ∃ operand, slot = some operand ∧ ofRecord record = .ok operand := by
  rw [ofSlot] at decodes
  cases decoded : ofRecord record with
  | error error =>
    rw [decoded] at decodes
    cases decodes
  | ok operand =>
    rw [decoded] at decodes
    cases decodes
    exact ⟨operand, rfl, rfl⟩

/-- A formula that is written as the normal form of a record, and can be read again. -/
structure Writes (formula : Expression) (record : OperatorRecord) : Prop where
  finite : ∀ value ∈ formula.floats, value.isFinite = true
  normal : formula.toRecord = record.normal

/-- The same for a row of slots. -/
structure SlotsWrite (slots : List (Option Expression)) (records : List (Option OperatorRecord)) :
    Prop where
  finite : ∀ value ∈ floatsSlots slots, value.isFinite = true
  normal : toSlots slots = OperatorRecord.normalSlots records

namespace SlotsWrite

variable {slots : List (Option Expression)} {records : List (Option OperatorRecord)}

theorem nil : SlotsWrite [] [] := ⟨by simp [floatsSlots], rfl⟩

theorem cons_none (write : SlotsWrite slots records) :
    SlotsWrite (none :: slots) (none :: records) where
  finite := write.finite
  normal := by
    rw [toSlots, toSlot, write.normal]
    rfl

theorem cons_some {operand : Expression} {record : OperatorRecord}
    (writes : operand.Writes record) (write : SlotsWrite slots records) :
    SlotsWrite (some operand :: slots) (some record :: records) where
  finite := by
    rw [floatsSlots, floatsSlot, List.forall_mem_append]
    exact ⟨writes.finite, write.finite⟩
  normal := by
    rw [toSlots, toSlot, writes.normal, write.normal]
    rfl

end SlotsWrite

mutual

/-- A formula is written as the normal form of each of its records. The operator and its static data
are those of the node, and the operands come by induction. -/
theorem writes_of_ofRecord : ∀ (record : OperatorRecord) {formula : Expression},
    ofRecord record = .ok formula → formula.Writes record
  | .node type data children, formula, decodes => by
    obtain ⟨op, operands, named, decodesChildren, assembles⟩ := ofRecord_eq_ok decodes
    obtain ⟨isOperator, isData, isOperands, isFinite⟩ := Operator.assembled_of_ok assembles
    have isName : formula.operator.name = type := by
      rw [isOperator, Operator.name_of_ofName? named]
    have written : ∀ rows, formula.recordWith rows = .node type (op.normalData data) rows := by
      intro rows
      rw [recordWith, isName, isData]
    have normalized : (OperatorRecord.node type data children).normal =
        .node type (op.normalData data)
          (if op.isLeaf then none else OperatorRecord.normalChildren children) := by
      rw [OperatorRecord.normal, named]
    cases leaf : op.isLeaf with
    | true =>
      refine ⟨isFinite leaf, ?_⟩
      rw [toRecord_eq, written, normalized, isOperator, leaf]
      rfl
    | false =>
      rw [isOperands leaf] at decodesChildren
      obtain ⟨records, rfl, decodesSlots⟩ := ofChildren_eq_some decodesChildren
      have write := slotsWrite_of_ofSlots records decodesSlots
      refine ⟨?_, ?_⟩
      · rw [floats_of_operands (by rw [isOperator, leaf])]
        exact write.finite
      · rw [toRecord_eq, written, normalized, isOperator, leaf, write.normal]
        rfl

theorem slotsWrite_of_ofSlots : ∀ (records : List (Option OperatorRecord))
    {slots : List (Option Expression)}, ofSlots records = .ok slots → SlotsWrite slots records
  | [], slots, decodes => by
    cases decodes
    exact .nil
  | none :: records, slots, decodes => by
    obtain ⟨slot, rest, rfl, first, others⟩ := ofSlots_cons_eq_ok decodes
    cases first
    exact (slotsWrite_of_ofSlots records others).cons_none
  | some record :: records, slots, decodes => by
    obtain ⟨slot, rest, rfl, first, others⟩ := ofSlots_cons_eq_ok decodes
    obtain ⟨operand, rfl, decodesOne⟩ := ofSlot_some_eq_ok first
    exact .cons_some (writes_of_ofRecord record decodesOne) (slotsWrite_of_ofSlots records others)

end

/-- A formula is read again from each normal form that it is written as. -/
theorem Writes.reads {formula : Expression} {record : OperatorRecord}
    (writes : formula.Writes record) : ofRecord record.normal = .ok formula := by
  rw [← writes.normal, ofRecord_toRecord, if_pos writes.finite]

/-- A formula with finite literals is what its record stands for, at every depth and with any empty
slots. A formula that comes from a record is written as the normal form of the record; reading and
writing leave that as it is; and two records stand for the same formula exactly if their normal
forms are the same. -/
theorem ofRecord_eq_iff_normal :
    (∀ formula : Expression, (∀ value ∈ formula.floats, value.isFinite = true) →
      ofRecord formula.toRecord = .ok formula) ∧
    (∀ record formula, ofRecord record = .ok formula →
      ofRecord formula.toRecord = .ok formula ∧
      formula.toRecord.recode = .ok formula.toRecord ∧
      formula.toRecord = record.normal ∧ record.normal.normal = record.normal) ∧
    ∀ record other formula same, ofRecord record = .ok formula → ofRecord other = .ok same →
      (formula = same ↔ record.normal = other.normal) := by
  refine ⟨?_, ?_, ?_⟩
  · intro formula finite
    rw [ofRecord_toRecord, if_pos finite]
  · intro record formula decodes
    have writes := writes_of_ofRecord record decodes
    have again : ofRecord formula.toRecord = .ok formula := by
      rw [writes.normal, writes.reads]
    have normalTwice := (writes_of_ofRecord formula.toRecord again).normal
    refine ⟨again, ?_, writes.normal, ?_⟩
    · rw [OperatorRecord.recode, again]
      rfl
    · rw [← writes.normal, ← normalTwice]
  · intro record other formula same decodes decodesOther
    have writes := writes_of_ofRecord record decodes
    have writesOther := writes_of_ofRecord other decodesOther
    constructor
    · rintro rfl
      rw [← writes.normal, ← writesOther.normal]
    · intro sameForm
      have reads := writes.reads
      rw [sameForm, writesOther.reads] at reads
      cases reads
      rfl

/-- Static data at an operator, a key that nothing reads, a number that is an integer, an empty row
of children at a leaf, and an empty slot. -/
def loose : OperatorRecord :=
  .node "GREATER_FLOAT" (some [("note", .bool true)])
    (some [some (.node "FLOAT_VALUE"
      (some [("unit", .null), ("value", .number (.int 10 (by decide)))]) (some [])), none])

/-- The same without what is not needed. -/
def tight : OperatorRecord :=
  .node "GREATER_FLOAT" none
    (some
      [some (.node "FLOAT_VALUE" (some [("value", .number (.float 10 (by decide)))]) none), none])

/-- Both records stand for one formula, and the second one is the normal form of both. -/
theorem ofRecord_eq_iff_normal_loose :
    ∃ formula, ofRecord loose = .ok formula ∧ ofRecord tight = .ok formula ∧
      formula.toRecord = loose.normal ∧ loose.normal = tight.normal ∧
      ofRecord formula.toRecord = .ok formula := by
  have decodesLoose : ofRecord loose = .ok (.binary .greater (some (.float 10)) none) := by
    with_unfolding_all rfl
  have decodesTight : ofRecord tight = .ok (.binary .greater (some (.float 10)) none) := by
    with_unfolding_all rfl
  obtain ⟨roundTrip, normalizes, decides⟩ := ofRecord_eq_iff_normal
  obtain ⟨-, -, written, -⟩ := normalizes _ _ decodesLoose
  have sameForm := (decides _ _ _ _ decodesLoose decodesTight).mp rfl
  refine ⟨_, decodesLoose, decodesTight, written, sameForm, roundTrip _ ?_⟩
  decide

end Expression

end RiskScoring

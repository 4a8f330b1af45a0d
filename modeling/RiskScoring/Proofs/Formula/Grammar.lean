import RiskScoring.Proofs.Formula.NormalForm

/-!
# The grammar of records

A record stands for a formula exactly if every record in it has a known operator, as many children
as the operator takes, and the static data that the operator needs. `OperatorRecord.faults` lists
what is wrong with a record and the records in it, whatever their number, in the order of the visit:
the operator of a record, then its children from left to right and each completely, then the number
of its children, and last its static data key by key. Decoding stops at the first of these faults.

* `OperatorRecord.WellShaped`, `OperatorRecord.Contains`: the grammar.
* `Operator.assemble_reports`: the faults of one node.
* `Expression.ofRecord_reports`: the induction over records.
* `Expression.ofRecord_iff_wellShaped`: the statement.
-/

namespace RiskScoring

/-! ## One node -/

/-- Whether the value is a string. -/
def Json.isString : Json → Bool
  | .string _ => true
  | _ => false

/-- What a key of static data has to hold. -/
inductive StaticKind where
  | string
  | number
  | strings
deriving DecidableEq, Repr

namespace StaticKind

/-- Whether a value is of the kind. -/
def admits : StaticKind → Json → Bool
  | string, .string _ => true
  | number, .number _ => true
  | strings, .array items => items.all Json.isString
  | _, _ => false

/-- What is wrong with a value that is not of the kind. -/
def fault : StaticKind → StaticFault
  | string => .notString
  | number => .notNumber
  | strings => .notStringList

/-- What is wrong with the value under a key. -/
def faults (kind : StaticKind) (data : Option (List (String × Json))) (key : String) :
    List RecordFault :=
  match data.bind (Dict.find? key) with
  | none => [.staticData key .missing]
  | some value => if kind.admits value then [] else [.staticData key kind.fault]

variable (data : Option (List (String × Json))) (key : String)

theorem getString_reports :
    Except.Reports (string.faults data key) (StaticData.getString data key) := by
  unfold faults StaticData.getString StaticData.get
  cases data.bind (Dict.find? key) with
  | none => exact rfl
  | some value =>
    cases value with
    | string text => exact ⟨text, rfl⟩
    | _ => exact rfl

theorem getFloat_reports :
    Except.Reports (number.faults data key) (StaticData.getFloat data key) := by
  unfold faults StaticData.getFloat StaticData.get
  cases data.bind (Dict.find? key) with
  | none => exact rfl
  | some value =>
    cases value with
    | number value => exact ⟨value.toFloat, rfl⟩
    | _ => exact rfl

theorem isSome_strings? (items : List Json) :
    (Value.strings? items).isSome = items.all Json.isString := by
  induction items with
  | nil => rfl
  | cons item rest ih =>
    cases item with
    | string text =>
      rw [Value.strings?, Option.isSome_map, ih, List.all_cons, Json.isString, Bool.true_and]
    | _ => rfl

theorem getStrings_reports :
    Except.Reports (strings.faults data key) (StaticData.getStrings data key) := by
  unfold faults StaticData.getStrings StaticData.get
  cases data.bind (Dict.find? key) with
  | none => exact rfl
  | some value =>
    cases value with
    | array items =>
      have all := isSome_strings? items
      simp only [admits, ← all]
      cases read : Value.strings? items with
      | none => simp only [bind, Except.bind, read]; exact rfl
      | some texts => simp only [bind, Except.bind, read]; exact ⟨texts, rfl⟩
    | _ => exact rfl

end StaticKind

namespace Operator

/-- The static data that an operator needs, in the order in which it is read. -/
def requiredData : Operator → List (String × StaticKind)
  | string => [("value", .string)]
  | float => [("value", .number)]
  | stringList => [("value", .strings)]
  | payload _ => [("fieldName", .string)]
  | stored _ => [("path", .strings), ("fieldName", .string)]
  | _ => []

/-- Whether an operator takes a row of so many slots, or none if there is no row. A leaf may have an
empty row, and a connective needs a row but may have an empty one. -/
def takes : Operator → Option Nat → Bool
  | not, count => count == some 1
  | binary _, count => count == some 2
  | variadic _, count => count.isSome
  | _, count => count == none || count == some 0

/-- What is wrong with a number of slots that the operator does not take. -/
def countFault : Operator → Option Nat → RecordFault
  | not, count => .wrongChildCount 1 count
  | binary _, count => .wrongChildCount 2 count
  | variadic _, _ => .childrenMissing
  | _, _ => .takesNoChildren

/-- What is wrong with the number of slots. -/
def countFaults (op : Operator) (count : Option Nat) : List RecordFault :=
  if op.takes count then [] else [op.countFault count]

/-- What is wrong with the static data, key by key. -/
def dataFaults (op : Operator) (data : Option (List (String × Json))) : List RecordFault :=
  op.requiredData.flatMap fun entry => entry.2.faults data entry.1

/-- What is wrong with a node: first the number of its slots, then its static data. -/
def faults (op : Operator) (data : Option (List (String × Json))) (count : Option Nat) :
    List RecordFault :=
  op.countFaults count ++ op.dataFaults data

variable {op : Operator} {data : Option (List (String × Json))}
  {operands : Option (List (Option Expression))}

theorem requireLeaf_reports (isLeaf : op.isLeaf = true) :
    Except.Reports (op.countFaults (operands.map List.length)) (requireLeaf operands) := by
  rcases operands with _ | _ | ⟨slot, rest⟩
  · have noFault : op.countFaults none = [] := by cases op <;> cases isLeaf <;> rfl
    rw [Option.map_none, noFault]
    exact .ok ()
  · have noFault : op.countFaults (some 0) = [] := by cases op <;> cases isLeaf <;> rfl
    rw [Option.map_some, List.length_nil, noFault]
    exact .ok ()
  · have fault : op.countFaults (some (rest.length + 1)) = [.takesNoChildren] := by
      cases op <;> cases isLeaf <;> rfl
    rw [Option.map_some, List.length_cons, fault]
    exact rfl

/-- A leaf with one key of static data. -/
theorem leaf_reports {α : Type} {key : String} {kind : StaticKind} {reading : Except RecordFault α}
    (isLeaf : op.isLeaf = true) (needs : op.requiredData = [(key, kind)])
    (reports : Except.Reports (kind.faults data key) reading) (build : α → Expression) :
    Except.Reports (op.faults data (operands.map List.length))
      (requireLeaf operands >>= fun _ => reading >>= fun value => pure (build value)) := by
  have dataFaults : op.dataFaults data = kind.faults data key ++ [] := by
    rw [Operator.dataFaults, needs]
    rfl
  rw [faults, dataFaults]
  exact (requireLeaf_reports isLeaf).bind fun _ _ => reports.bind fun value _ => .ok (build value)

/-- A node is put together unless it has a fault, and its first fault is the error. -/
theorem assemble_reports (op : Operator) (data : Option (List (String × Json)))
    (operands : Option (List (Option Expression))) :
    Except.Reports (op.faults data (operands.map List.length)) (op.assemble data operands) := by
  cases op with
  | bool value => exact (requireLeaf_reports rfl).bind fun _ _ => .ok _
  | string => exact leaf_reports rfl rfl (StaticKind.getString_reports data "value") _
  | float => exact leaf_reports rfl rfl (StaticKind.getFloat_reports data "value") _
  | stringList => exact leaf_reports rfl rfl (StaticKind.getStrings_reports data "value") _
  | payload type => exact leaf_reports rfl rfl (StaticKind.getString_reports data "fieldName") _
  | stored type =>
    have pathReports := StaticKind.getStrings_reports data "path"
    have nameReports := StaticKind.getString_reports data "fieldName"
    have dataFaults : (stored type).dataFaults data =
        StaticKind.strings.faults data "path" ++
          (StaticKind.string.faults data "fieldName" ++ []) :=
      rfl
    rw [faults, dataFaults]
    refine (requireLeaf_reports rfl).bind fun _ _ => pathReports.bind fun path _ => ?_
    exact nameReports.bind fun name _ => .ok (Expression.stored type path name)
  | not =>
    rcases operands with _ | _ | ⟨operand, _ | ⟨other, rest⟩⟩
    · exact rfl
    · exact rfl
    · exact ⟨.not operand, rfl⟩
    · exact rfl
  | binary op =>
    rcases operands with _ | _ | ⟨left, _ | ⟨right, _ | ⟨other, rest⟩⟩⟩
    · exact rfl
    · exact rfl
    · exact rfl
    · exact ⟨.binary op left right, rfl⟩
    · exact rfl
  | variadic op =>
    cases operands with
    | none => exact rfl
    | some slots => exact ⟨.variadic op slots, rfl⟩

end Operator

/-! ## Records -/

namespace OperatorRecord

/-- A record is in another one: it is that one, or it is in one of its children. -/
inductive Contains : OperatorRecord → OperatorRecord → Prop
  | self (record : OperatorRecord) : Contains record record
  | child {type : String} {data : Option (List (String × Json))}
    {slots : List (Option OperatorRecord)} {operand part : OperatorRecord}
    (listed : some operand ∈ slots) (inside : Contains operand part) :
    Contains (node type data (some slots)) part

/-- The record by itself, without regard to its children, fits the grammar: it has the name of an
operator, as many slots as the operator takes, and under every key that the operator needs a value
of the right kind. -/
def WellShaped : OperatorRecord → Prop
  | node type data children => ∃ op : Operator, op.name = type ∧
    op.takes (children.map List.length) = true ∧
    ∀ key kind, (key, kind) ∈ op.requiredData →
      ∃ value, data.bind (Dict.find? key) = some value ∧ kind.admits value = true

/-- The fault of a name that no operator has. -/
def typeFaults : OperatorRecord → List RecordError
  | node type _ _ => if (Operator.ofName? type).isSome then [] else [.unknownOperator type]

/-- The faults of the number of slots and of the static data, if the operator is known. -/
def shapeFaults : OperatorRecord → List RecordError
  | node type data children =>
    match Operator.ofName? type with
    | none => []
    | some op => (op.faults data (children.map List.length)).map (.malformed op)

mutual

/-- Everything that is wrong with a record and the records in it, in the order of the visit. -/
def faults : OperatorRecord → List RecordError
  | node type data children =>
    (node type data children).typeFaults ++
      (faultsChildren children ++ (node type data children).shapeFaults)

/-- What is wrong in the children, if there is a row of them. -/
def faultsChildren : Option (List (Option OperatorRecord)) → List RecordError
  | none => []
  | some slots => faultsSlots slots

/-- What is wrong in a row of slots, from left to right. -/
def faultsSlots : List (Option OperatorRecord) → List RecordError
  | [] => []
  | slot :: rest => faultsSlot slot ++ faultsSlots rest

/-- What is wrong in a slot. An empty one is in order. -/
def faultsSlot : Option OperatorRecord → List RecordError
  | none => []
  | some record => faults record

end

/-- A record fits the grammar exactly if it has no fault of its own. -/
theorem wellShaped_iff (record : OperatorRecord) :
    record.WellShaped ↔ record.typeFaults = [] ∧ record.shapeFaults = [] := by
  obtain ⟨type, data, children⟩ := record
  rw [WellShaped, typeFaults, shapeFaults]
  cases named : Operator.ofName? type with
  | none =>
    refine iff_of_false ?_ (by simp)
    rintro ⟨op, rfl, -⟩
    rw [Operator.ofName?_name] at named
    cases named
  | some op =>
    have unique : ∀ other : Operator, other.name = type ↔ other = op := by
      intro other
      constructor
      · rintro rfl
        rw [Operator.ofName?_name] at named
        exact Option.some.inj named
      · rintro rfl
        exact Operator.name_of_ofName? named
    have held : ∀ key (kind : StaticKind), kind.faults data key = [] ↔
        ∃ value, data.bind (Dict.find? key) = some value ∧ kind.admits value = true := by
      intro key kind
      unfold StaticKind.faults
      cases data.bind (Dict.find? key) <;> simp
    simp only [unique, exists_eq_left, Option.isSome_some, if_true, true_and, List.map_eq_nil_iff,
      Operator.faults, List.append_eq_nil_iff, Operator.countFaults, Operator.dataFaults,
      List.flatMap_eq_nil_iff, Prod.forall, held]
    simp

mutual

/-- The faults of a record are those of the records in it. -/
theorem mem_faults {error : RecordError} : ∀ record : OperatorRecord,
    error ∈ record.faults ↔
      ∃ part, record.Contains part ∧ (error ∈ part.typeFaults ∨ error ∈ part.shapeFaults)
  | node type data none => by
    rw [faults, faultsChildren, List.nil_append, List.mem_append]
    constructor
    · exact fun own => ⟨_, .self _, own⟩
    · rintro ⟨part, inside, own⟩
      cases inside
      exact own
  | node type data (some slots) => by
    rw [faults, faultsChildren, List.mem_append, List.mem_append, mem_faultsSlots slots]
    constructor
    · rintro (ofType | ⟨operand, listed, part, inside, own⟩ | ofShape)
      · exact ⟨_, .self _, Or.inl ofType⟩
      · exact ⟨part, .child listed inside, own⟩
      · exact ⟨_, .self _, Or.inr ofShape⟩
    · rintro ⟨part, inside, own⟩
      cases inside with
      | self => exact own.imp id Or.inr
      | child listed inside => exact Or.inr (Or.inl ⟨_, listed, part, inside, own⟩)

theorem mem_faultsSlots {error : RecordError} : ∀ slots : List (Option OperatorRecord),
    error ∈ faultsSlots slots ↔ ∃ operand, some operand ∈ slots ∧
      ∃ part, operand.Contains part ∧ (error ∈ part.typeFaults ∨ error ∈ part.shapeFaults)
  | [] => by simp [faultsSlots]
  | none :: rest => by
    rw [faultsSlots, faultsSlot, List.nil_append, mem_faultsSlots rest]
    simp
  | some record :: rest => by
    rw [faultsSlots, faultsSlot, List.mem_append, mem_faults record, mem_faultsSlots rest]
    simp only [List.mem_cons, Option.some.injEq, or_and_right, exists_or, exists_eq_left]

end

/-- A record has no fault exactly if every record in it fits the grammar. -/
theorem faults_eq_nil {record : OperatorRecord} :
    record.faults = [] ↔ ∀ part, record.Contains part → part.WellShaped := by
  simp only [List.eq_nil_iff_forall_not_mem, mem_faults, wellShaped_iff]
  constructor
  · intro none part inside
    exact ⟨fun error own => none error ⟨part, inside, Or.inl own⟩,
      fun error own => none error ⟨part, inside, Or.inr own⟩⟩
  · rintro fits error ⟨part, inside, own | own⟩
    · exact (fits part inside).1 error own
    · exact (fits part inside).2 error own

/-- The error is about the record: it carries its name, which no operator has, or it names its
operator. -/
def Concerns (record : OperatorRecord) (error : RecordError) : Prop :=
  match record with
  | node type data children =>
    (error = .unknownOperator type ∧ ∀ op : Operator, op.name ≠ type) ∨
      ∃ op fault, op.name = type ∧ error = .malformed op fault ∧
        fault ∈ op.faults data (children.map List.length)

theorem concerns_of_mem {record : OperatorRecord} {error : RecordError}
    (own : error ∈ record.typeFaults ∨ error ∈ record.shapeFaults) : record.Concerns error := by
  obtain ⟨type, data, children⟩ := record
  rw [typeFaults, shapeFaults] at own
  cases named : Operator.ofName? type with
  | none =>
    simp only [named, Option.isSome_none, Bool.false_eq_true, if_false, List.mem_singleton,
      List.not_mem_nil, or_false] at own
    refine Or.inl ⟨own, ?_⟩
    rintro op rfl
    rw [Operator.ofName?_name] at named
    cases named
  | some op =>
    simp only [named, Option.isSome_some, if_true, List.not_mem_nil, false_or] at own
    obtain ⟨fault, listed, rfl⟩ := List.mem_map.mp own
    exact Or.inr ⟨op, fault, Operator.name_of_ofName? named, rfl, listed⟩

end OperatorRecord

namespace Expression

/-- A row of slots is decoded into as many slots. -/
theorem length_of_ofSlots {records : List (Option OperatorRecord)}
    {slots : List (Option Expression)} (decodes : ofSlots records = .ok slots) :
    slots.length = records.length := by
  induction records generalizing slots with
  | nil =>
    cases decodes
    rfl
  | cons record rest ih =>
    obtain ⟨slot, others, rfl, -, decodesRest⟩ := ofSlots_cons_eq_ok decodes
    rw [List.length_cons, List.length_cons, ih decodesRest]

theorem length_of_ofChildren {children : Option (List (Option OperatorRecord))}
    {operands : Option (List (Option Expression))} (decodes : ofChildren children = .ok operands) :
    operands.map List.length = children.map List.length := by
  cases operands with
  | none =>
    cases children with
    | none => rfl
    | some records =>
      rw [ofChildren] at decodes
      cases decoded : ofSlots records <;> rw [decoded] at decodes <;> cases decodes
  | some slots =>
    obtain ⟨records, rfl, decodesSlots⟩ := ofChildren_eq_some decodes
    rw [Option.map_some, Option.map_some, length_of_ofSlots decodesSlots]

/-- A node of a known operator whose children are decoded. -/
theorem node_reports (op : Operator) (data : Option (List (String × Json)))
    (operands : Option (List (Option Expression))) :
    Except.Reports ((op.faults data (operands.map List.length)).map (.malformed op))
      (match op.assemble data operands with
        | .ok formula => return formula
        | .error fault => throw (.malformed op fault) : Except RecordError Expression) := by
  have reports := op.assemble_reports data operands
  cases found : op.faults data (operands.map List.length) with
  | nil =>
    rw [found] at reports
    obtain ⟨formula, assembled⟩ := reports
    rw [assembled]
    exact ⟨formula, rfl⟩
  | cons fault rest =>
    rw [found] at reports
    have stops : op.assemble data operands = .error fault := reports
    rw [stops]
    exact rfl

mutual

/-- Decoding stops at the first fault of the record. The children are decoded before the node is
looked at, and no later fault is seen. -/
theorem ofRecord_reports : ∀ record : OperatorRecord,
    Except.Reports record.faults (ofRecord record)
  | .node type data children => by
    rw [OperatorRecord.faults, OperatorRecord.typeFaults, OperatorRecord.shapeFaults, ofRecord]
    cases Operator.ofName? type with
    | none => exact rfl
    | some op =>
      rw [Option.isSome_some, if_pos rfl, List.nil_append]
      refine (ofChildren_reports children).bind fun operands decodes => ?_
      rw [← length_of_ofChildren decodes]
      exact node_reports op data operands

theorem ofChildren_reports : ∀ children : Option (List (Option OperatorRecord)),
    Except.Reports (OperatorRecord.faultsChildren children) (ofChildren children)
  | none => by
    rw [OperatorRecord.faultsChildren, ofChildren]
    exact .ok none
  | some slots => by
    rw [OperatorRecord.faultsChildren, ofChildren]
    exact (ofSlots_reports slots).map some

theorem ofSlots_reports : ∀ slots : List (Option OperatorRecord),
    Except.Reports (OperatorRecord.faultsSlots slots) (ofSlots slots)
  | [] => by
    rw [OperatorRecord.faultsSlots, ofSlots]
    exact .ok []
  | slot :: rest => by
    have later := ofSlots_reports rest
    rw [OperatorRecord.faultsSlots, ofSlots]
    refine (ofSlot_reports slot).bind fun operand _ => ?_
    rw [← List.append_nil (OperatorRecord.faultsSlots rest)]
    exact later.bind fun operands _ => .ok (operand :: operands)

theorem ofSlot_reports : ∀ slot : Option OperatorRecord,
    Except.Reports (OperatorRecord.faultsSlot slot) (ofSlot slot)
  | none => by
    rw [OperatorRecord.faultsSlot, ofSlot]
    exact .ok none
  | some record => by
    rw [OperatorRecord.faultsSlot, ofSlot]
    exact (ofRecord_reports record).map some

end

/-- A record stands for a formula exactly if every record in it fits the grammar. If not, the error
is the first fault in the order of the visit, and it carries the unknown name or names the operator
of the record that it is about. -/
theorem ofRecord_iff_wellShaped (record : OperatorRecord) :
    ((∃ formula, ofRecord record = .ok formula) ↔
      ∀ part, record.Contains part → part.WellShaped) ∧
    ∀ error, ofRecord record = .error error ↔
      record.faults.head? = some error ∧ ∃ part, record.Contains part ∧ part.Concerns error := by
  have reports := ofRecord_reports record
  refine ⟨reports.exists_ok_iff.trans OperatorRecord.faults_eq_nil, fun error => ?_⟩
  rw [reports.eq_error_iff]
  refine (and_iff_left_of_imp fun first => ?_).symm
  obtain ⟨part, inside, own⟩ := (OperatorRecord.mem_faults record).mp (List.mem_of_head? first)
  exact ⟨part, inside, OperatorRecord.concerns_of_mem own⟩

/-- A negation with too many children: a connective without a row of children, and a record of an
unknown operator with a double that has no value in it. -/
def crowded : OperatorRecord :=
  .node "NOT" none (some [some (.node "AND" none none),
    some (.node "MAYBE" none (some [none, some (.node "FLOAT_VALUE" (some []) none)]))])

/-- Of the four faults of the record, decoding reports the one that the visit comes to first. -/
theorem ofRecord_iff_wellShaped_crowded :
    crowded.faults = [.malformed (.variadic .and) .childrenMissing, .unknownOperator "MAYBE",
      .malformed .float (.staticData "value" .missing),
      .malformed .not (.wrongChildCount 1 (some 2))] ∧
    ofRecord crowded = .error (.malformed (.variadic .and) .childrenMissing) ∧
    ¬ ∀ part, crowded.Contains part → part.WellShaped := by
  have visited : crowded.faults = [.malformed (.variadic .and) .childrenMissing,
      .unknownOperator "MAYBE", .malformed .float (.staticData "value" .missing),
      .malformed .not (.wrongChildCount 1 (some 2))] := by
    rfl
  obtain ⟨accepts, reports⟩ := ofRecord_iff_wellShaped crowded
  have inside : crowded.Contains (.node "AND" none none) := .child List.mem_cons_self (.self _)
  have stops : ofRecord crowded = .error (.malformed (.variadic .and) .childrenMissing) := by
    refine (reports _).mpr ⟨by rw [visited]; rfl, _, inside, Or.inr ⟨_, _, rfl, rfl, ?_⟩⟩
    exact List.mem_singleton.mpr rfl
  refine ⟨visited, stops, fun fits => ?_⟩
  obtain ⟨formula, decodes⟩ := accepts.mpr fits
  rw [stops] at decodes
  cases decodes

end Expression

end RiskScoring

import RiskScoring.Formula.Codec
import RiskScoring.Proofs.Checks
import RiskScoring.Proofs.Json.RoundTrip

/-!
# Records of formulas

* `OperatorRecord.Reads`: a record is decoded from its own JSON, unless a budget of levels cuts it.
* `Expression.toRecord_reads`: the records of formulas are.
* `Expression.ofRecord_toRecord`: a formula is what its records stand for, if its literals are
  finite.
-/

namespace RiskScoring

open Source (within withinItems withinMembers Allows)

namespace Json

theorem keysDistinct_ofStrings (items : List String) : (ofStrings items).KeysDistinct := by
  induction items with
  | nil => trivial
  | cons item items ih => exact ⟨trivial, ih⟩

end Json

theorem Decoder.json_within {budget : Option Nat} {value : Json} (distinct : value.KeysDistinct) :
    json (within budget value) =
      if Allows budget value.depth then .ok value else .error .malformed := by
  rw [json, Source.toJson?_within value budget distinct]
  by_cases fits : Allows budget value.depth <;> simp [fits]

namespace OperatorRecord

/-! ## Decoding -/

/-- The record is decoded from its own JSON, and from nothing that a budget has cut. -/
def Reads (record : OperatorRecord) : Prop :=
  ∀ budget, decoder (within budget record.toJson) =
    if Allows budget record.toJson.depth then .ok record else .error .malformed

/-- The same for a row of slots. -/
def SlotsRead (slots : List (Option OperatorRecord)) : Prop :=
  ∀ budget, slotsOf (withinItems budget (toJsonSlots slots)) =
    if Allows budget (Json.depthItems (toJsonSlots slots)) then .ok slots else .error .malformed

namespace SlotsRead

theorem nil : SlotsRead [] := fun _ => by
  simp [toJsonSlots, withinItems, slotsOf, Json.depthItems]

variable {slots : List (Option OperatorRecord)}

theorem cons_none (read : SlotsRead slots) : SlotsRead (none :: slots) := by
  intro budget
  rw [toJsonSlots, withinItems, toJsonSlot, within, slotsOf, read budget]
  simp only [Json.depthItems, Json.depth, Source.allows_max, Source.allows_zero, true_and]
  split <;> rfl

theorem cons_some {record : OperatorRecord} (reads : record.Reads) (read : SlotsRead slots) :
    SlotsRead (some record :: slots) := by
  intro budget
  have notNull : within budget record.toJson ≠ .null := by
    cases record
    rw [toJson]
    exact Source.within_object_ne_null
  rw [toJsonSlots, withinItems, toJsonSlot, slotsOf, reads budget, read budget, Json.depthItems]
  · simp only [Source.allows_max]
    exact Except.bind_ite (Except.bind_ite_ok rfl)
  · exact notNull

end SlotsRead

/-! ## The members of a record -/

section

variable {budget : Option Nat} {data : Option (List (String × Json))}
  {children : Option (List (Option OperatorRecord))}

theorem dataDecoder_within {entries : List (String × Json)}
    (distinct : (Json.object entries).KeysDistinct) :
    dataDecoder.option (within budget (.object entries)) =
      if Allows budget (Json.object entries).depth then .ok (some entries)
      else .error .malformed := by
  have decodes : dataDecoder (within budget (.object entries)) =
      if Allows budget (Json.object entries).depth then .ok entries else .error .malformed := by
    rw [dataDecoder, Decoder.json_within distinct]
    exact Except.bind_ite_ok rfl
  rw [Decoder.option, decodes]
  · exact Except.map_ite
  · exact Source.within_object_ne_null

/-- Static data that fit are taken. -/
theorem fillMembers_staticMember (distinct : ∀ entries ∈ data, (Json.object entries).KeysDistinct)
    (type : String) (rest : List (Option String × Source)) :
    fillMembers (withinMembers budget (staticMember data) ++ rest) ⟨some type, none, none⟩ =
      (if Allows budget (Json.depthMembers (staticMember data)) then
        .ok ⟨some type, data.map some, none⟩
      else .error .malformed : Except DecodeError Slots).bind (fillMembers rest) := by
  cases data with
  | none => simp [staticMember, withinMembers, Json.depthMembers, Except.bind]
  | some entries =>
    have key : ("staticData" : String) ≠ "type" := by decide
    simp only [staticMember, withinMembers, List.cons_append, List.nil_append, fillMembers,
      takeData, dataDecoder_within (distinct entries rfl), if_neg key, if_pos, Json.depthMembers,
      Source.allows_max, Source.allows_zero, and_true]
    exact congrArg (Except.bind · (fillMembers rest)) Except.map_ite

theorem childrenOf_within {slots : List (Option OperatorRecord)} (read : SlotsRead slots) :
    childrenOf (within budget (.array (toJsonSlots slots))) =
      if Allows budget (Json.array (toJsonSlots slots)).depth then .ok (some slots)
      else .error .malformed := by
  rw [within, Json.depth]
  simp only [Source.allows_succ]
  by_cases spent : budget = some 0
  · simp [spent, childrenOf]
  · rw [if_neg spent, childrenOf, read]
    simp only [ne_eq, spent, not_false_eq_true, true_and]
    exact Except.bind_ite_ok rfl

/-- Children that fit are taken. -/
theorem fillMembers_childrenMember (read : ∀ slots ∈ children, SlotsRead slots) (type : String)
    (data : Option (Option (List (String × Json)))) :
    fillMembers (withinMembers budget (childrenMember children)) ⟨some type, data, none⟩ =
      if Allows budget (Json.depthMembers (childrenMember children)) then
        .ok ⟨some type, data, children.map some⟩
      else .error .malformed := by
  cases children with
  | none => simp [childrenMember, withinMembers, fillMembers, Json.depthMembers]
  | some slots =>
    have notType : ("children" : String) ≠ "type" := by decide
    have notData : ("children" : String) ≠ "staticData" := by decide
    simp only [childrenMember, withinMembers, fillMembers, if_neg notType, if_neg notData, if_pos,
      childrenOf_within (read slots rfl), Json.depthMembers, Source.allows_max, Source.allows_zero,
      and_true]
    exact Except.bind_ite_ok rfl

end

/-- A record is decoded if its static data have distinct keys and its children are decoded. -/
theorem reads_node {data : Option (List (String × Json))}
    {children : Option (List (Option OperatorRecord))} (type : String)
    (distinct : ∀ entries ∈ data, (Json.object entries).KeysDistinct)
    (read : ∀ slots ∈ children, SlotsRead slots) : Reads (.node type data children) := by
  intro budget
  rw [toJson, within, Json.depth, Json.depthMembers, Json.depthMembers_append]
  simp only [Source.allows_succ, Source.allows_max, Json.depth, Source.allows_zero, true_and]
  by_cases spent : budget = some 0
  · simp [spent, decoder]
  · -- The name of the operator always fits. Static data and children are two checks in a row.
    rw [if_neg spent, decoder, withinMembers, Source.withinMembers_append, fillMembers]
    have taken : takeType (within (budget.map (· - 1)) (.string type)) vacant =
        .ok ⟨some type, none, none⟩ := rfl
    have built : build ⟨some type, data.map some, children.map some⟩ =
        .ok (.node type data children) := by
      cases data <;> cases children <;> rfl
    simp only [if_pos, taken]
    simp only [ne_eq, spent, not_false_eq_true, true_and]
    show (fillMembers _ ⟨some type, none, none⟩).bind build = _
    rw [fillMembers_staticMember distinct,
      Except.bind_ite (fillMembers_childrenMember read type (data.map some))]
    exact Except.bind_ite_ok built

end OperatorRecord

namespace Expression

open OperatorRecord (Reads SlotsRead)

theorem keysDistinct_staticData (formula : Expression) :
    (Json.object formula.staticData).KeysDistinct := by
  cases formula with
  | float value =>
    simp only [staticData, Json.ofFloat]
    split <;> simp [Json.KeysDistinct, Json.KeysDistinctMembers]
  | _ =>
    simp [staticData, Json.KeysDistinct, Json.KeysDistinctMembers, Json.keysDistinct_ofStrings]

/-- A node is decoded from its own JSON if its operands are. -/
theorem recordWith_reads (formula : Expression) {children : Option (List (Option OperatorRecord))}
    (read : ∀ slots ∈ children, SlotsRead slots) : (formula.recordWith children).Reads := by
  refine OperatorRecord.reads_node _ (fun entries present => ?_) read
  split at present
  · cases present
  · cases present
    exact formula.keysDistinct_staticData

mutual

/-- The record of a formula is decoded from its own JSON. -/
theorem toRecord_reads : ∀ formula : Expression, formula.toRecord.Reads
  | .bool _ | .string _ | .float _ | .stringList _ | .payload .. | .stored .. =>
    recordWith_reads _ (by simp)
  | .not operand => by
    refine recordWith_reads _ ?_
    rintro _ ⟨⟩
    exact toSlot_read operand .nil
  | .binary _ left right => by
    refine recordWith_reads _ ?_
    rintro _ ⟨⟩
    exact toSlot_read left (toSlot_read right .nil)
  | .variadic _ operands => by
    refine recordWith_reads _ ?_
    rintro _ ⟨⟩
    exact toSlots_read operands

theorem toSlot_read : ∀ (slot : Option Expression) {slots : List (Option OperatorRecord)},
    SlotsRead slots → SlotsRead (toSlot slot :: slots)
  | none, _, read => read.cons_none
  | some operand, _, read => read.cons_some (toRecord_reads operand)

theorem toSlots_read : ∀ slots : List (Option Expression), SlotsRead (toSlots slots)
  | [] => .nil
  | slot :: slots => toSlot_read slot (toSlots_read slots)

end

/-! ## Back to the formula -/

mutual

/-- The literal doubles of a formula, from left to right. -/
def floats : Expression → List Float
  | float value => [value]
  | not operand => floatsSlot operand
  | binary _ left right => floatsSlot left ++ floatsSlot right
  | variadic _ operands => floatsSlots operands
  | _ => []

/-- The literal doubles of the formula in a slot. -/
def floatsSlot : Option Expression → List Float
  | none => []
  | some operand => floats operand

/-- The literal doubles of the formulas in a row of slots. -/
def floatsSlots : List (Option Expression) → List Float
  | [] => []
  | slot :: rest => floatsSlot slot ++ floatsSlots rest

end

/-- What is said of a literal double that JSON cannot write. -/
def notNumber : RecordError := .malformed .float (.staticData "value" .notNumber)

end Expression

theorem Operator.ofName?_name (op : Operator) : ofName? op.name = some op := by
  cases op with
  | bool value => cases value <;> rfl
  | payload type => cases type <;> rfl
  | stored type => cases type <;> rfl
  | binary op => cases op <;> rfl
  | variadic op => cases op <;> rfl
  | _ => rfl

theorem Value.strings?_map (items : List String) :
    strings? (items.map Json.string) = some items := by
  induction items with
  | nil => rfl
  | cons item items ih =>
    rw [List.map_cons, strings?, ih]
    rfl

theorem StaticData.getStrings_ofStrings {data : List (String × Json)} {key : String}
    {items : List String} (found : Dict.find? key data = some (Json.ofStrings items)) :
    getStrings (some data) key = .ok items := by
  have value : get (some data) key = .ok (Json.ofStrings items) := by
    simp only [get, Option.bind_some, found]
  simp only [getStrings, value, bind, Except.bind, Json.ofStrings, Value.strings?_map]
  rfl

namespace Expression

/-- The formula of a node: first the operands, and then the node itself. -/
theorem ofRecord_recordWith (formula : Expression)
    (children : Option (List (Option OperatorRecord))) :
    ofRecord (formula.recordWith children) =
      (ofChildren children).bind fun operands =>
        (formula.operator.assemble
          (if formula.staticData.isEmpty then none else some formula.staticData) operands).mapError
            (.malformed formula.operator) := by
  rw [recordWith, ofRecord, Operator.ofName?_name]
  refine congrArg (Except.bind (ofChildren children)) (funext fun operands => ?_)
  split
  · rename_i assembled
    rw [assembled]
    rfl
  · rename_i assembled
    rw [assembled]
    rfl

/-- A literal double is there again if it is finite. -/
theorem ofRecord_float (value : Float) :
    ofRecord (recordWith (.float value) none) =
      if value.isFinite = true then .ok (.float value) else .error notNumber := by
  rw [ofRecord_recordWith]
  by_cases finite : value.isFinite = true
  · simp only [staticData, Json.ofFloat, dif_pos finite, if_pos finite]
    rfl
  · simp only [staticData, Json.ofFloat, dif_neg finite, if_neg finite]
    rfl

theorem ofRecord_stringList (items : List String) :
    ofRecord (recordWith (.stringList items) none) = .ok (.stringList items) := by
  have strings : StaticData.getStrings (some (staticData (.stringList items))) "value" =
      .ok items := StaticData.getStrings_ofStrings rfl
  rw [ofRecord_recordWith]
  change ((StaticData.getStrings (some (staticData (.stringList items))) "value").bind
    fun items => .ok (stringList items)).mapError (RecordError.malformed .stringList) = _
  rw [strings]
  rfl

theorem ofRecord_stored (type : FieldType) (path : List String) (name : String) :
    ofRecord (recordWith (.stored type path name) none) = .ok (.stored type path name) := by
  have strings : StaticData.getStrings (some (staticData (.stored type path name))) "path" =
      .ok path := StaticData.getStrings_ofStrings rfl
  rw [ofRecord_recordWith]
  change ((StaticData.getStrings (some (staticData (.stored type path name))) "path").bind
    fun path => .ok (stored type path name)).mapError (RecordError.malformed (.stored type)) = _
  rw [strings]
  rfl

section

variable {p q : Prop} [Decidable p] [Decidable q] {record : Option OperatorRecord}
  {slot : Option Expression} {error : RecordError}

theorem ofSlots_cons {records : List (Option OperatorRecord)} {slots : List (Option Expression)}
    (first : ofSlot record = if p then .ok slot else .error error)
    (others : ofSlots records = if q then .ok slots else .error error) :
    ofSlots (record :: records) = if p ∧ q then .ok (slot :: slots) else .error error := by
  rw [ofSlots, first, others]
  exact Except.bind_ite (Except.bind_ite_ok rfl)

theorem ofSlots_singleton (only : ofSlot record = if p then .ok slot else .error error) :
    ofSlots [record] = if p then .ok [slot] else .error error := by
  rw [ofSlots, only]
  exact Except.bind_ite_ok rfl

end

mutual

/-- A formula is what its record stands for, if all of its literal doubles are finite. -/
theorem ofRecord_toRecord : ∀ formula : Expression,
    ofRecord formula.toRecord =
      if ∀ value ∈ formula.floats, value.isFinite = true then .ok formula else .error notNumber
  | .bool value => by
    rw [if_pos (by simp [floats])]
    exact ofRecord_recordWith (.bool value) none
  | .string value => by
    rw [if_pos (by simp [floats])]
    exact ofRecord_recordWith (.string value) none
  | .payload type name => by
    rw [if_pos (by simp [floats])]
    exact ofRecord_recordWith (.payload type name) none
  | .float value => by
    simp only [floats, List.forall_mem_singleton]
    exact ofRecord_float value
  | .stringList items => by
    rw [if_pos (by simp [floats])]
    exact ofRecord_stringList items
  | .stored type path name => by
    rw [if_pos (by simp [floats])]
    exact ofRecord_stored type path name
  | .not operand => by
    rw [toRecord, ofRecord_recordWith, ofChildren, ofSlots_singleton (ofSlot_toSlot operand),
      Except.map_ite, floats]
    exact Except.bind_ite_ok rfl
  | .binary op left right => by
    rw [toRecord, ofRecord_recordWith, ofChildren,
      ofSlots_cons (ofSlot_toSlot left) (ofSlots_singleton (ofSlot_toSlot right)), Except.map_ite,
      floats]
    simp only [List.forall_mem_append]
    exact Except.bind_ite_ok rfl
  | .variadic op operands => by
    rw [toRecord, ofRecord_recordWith, ofChildren, ofSlots_toSlots operands, Except.map_ite, floats]
    exact Except.bind_ite_ok rfl

theorem ofSlot_toSlot : ∀ slot : Option Expression,
    ofSlot (toSlot slot) =
      if ∀ value ∈ floatsSlot slot, value.isFinite = true then .ok slot else .error notNumber
  | none => by simp [toSlot, ofSlot, floatsSlot]
  | some operand => by
    rw [toSlot, ofSlot, ofRecord_toRecord operand, floatsSlot]
    split <;> rfl

theorem ofSlots_toSlots : ∀ slots : List (Option Expression),
    ofSlots (toSlots slots) =
      if ∀ value ∈ floatsSlots slots, value.isFinite = true then .ok slots else .error notNumber
  | [] => by simp [toSlots, ofSlots, floatsSlots]
  | slot :: rest => by
    simp only [floatsSlots, List.forall_mem_append]
    exact ofSlots_cons (ofSlot_toSlot slot) (ofSlots_toSlots rest)

end

end Expression

end RiskScoring

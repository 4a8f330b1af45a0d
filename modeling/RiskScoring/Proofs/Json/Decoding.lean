import RiskScoring.Json.Decode
import RiskScoring.Proofs.Checks
import RiskScoring.Proofs.Json.Integers

/-!
# Records that read back

A decoder reads a value back from its JSON if it finds the value there, however deep the JSON stands
in a text, as long as the budget of levels is enough. For a record it suffices to look at its
members one by one.

* `Decoder.Reads`: a decoder reads a value back from its JSON.
* `Record.Holds`: the members from which a record is read; one rule for each way to describe
  records.
* `Record.Holds.reads`: a record is read from the object of its members.
* `Decoder.text_compact`: what is read back from JSON is read back from text.
-/

namespace RiskScoring

open Source (within withinItems withinMembers Allows)

variable {α β : Type}

/-- The decoder finds the value in its JSON, under any budget that is enough for its depth. -/
def Decoder.Reads (decoder : Decoder α) (json : Json) (value : α) : Prop :=
  ∀ ⦃budget⦄, Allows budget json.depth → decoder (within budget json) = .ok value

/-! ## Values -/

namespace Decoder

theorem string_reads (value : String) : string.Reads (.string value) value := fun _ _ => rfl

theorem bool_reads (value : Bool) : bool.Reads (.bool value) value := fun _ _ => rfl

theorem json_reads {value : Json} (distinct : value.KeysDistinct) : json.Reads value value := by
  intro budget fits
  rw [json, Source.toJson?_within value budget distinct, if_pos fits]

theorem int_reads {least greatest value : Int} (inBounds : least ≤ value ∧ value ≤ greatest)
    (fits : -0x8000000000000000 ≤ value ∧ value < 0x10000000000000000) :
    (int least greatest).Reads (.number (.int value fits)) value := by
  intro budget _
  rw [within, int, if_pos inBounds]

theorem uint16_reads (value : UInt16) : uint16.Reads (Json.ofUInt16 value) value := by
  intro budget fits
  have bound := value.toNat_lt
  rw [uint16, Json.ofUInt16, int_reads ⟨by omega, by omega⟩ _ fits]
  simp [Except.map]

theorem uint32_reads (value : UInt32) : uint32.Reads (Json.ofUInt32 value) value := by
  intro budget fits
  have bound := value.toNat_lt
  rw [uint32, Json.ofUInt32, int_reads ⟨by omega, by omega⟩ _ fits]
  simp [Except.map]

theorem int64_reads (value : Int64) : int64.Reads (Json.ofInt64 value) value := by
  intro budget fits
  have least := value.le_toInt
  have greatest := value.toInt_lt
  rw [int64, Json.ofInt64, int_reads ⟨by omega, by omega⟩ _ fits]
  simp [Except.map]

theorem name_reads {name : α → String} {ofName? : String → Option α} {value : α}
    (named : ofName? (name value) = some value) :
    (Decoder.name ofName?).Reads (.string (name value)) value := by
  intro budget _
  rw [within, Decoder.name]
  simp only [named]

/-- A value that is not written as `null` is read as one that is there. -/
theorem option_reads {decoder : Decoder α} {json : Json} {value : α}
    (reads : decoder.Reads json value) (notNull : json ≠ .null) :
    decoder.option.Reads json (some value) := by
  intro budget fits
  have isValue : within budget json ≠ .null := by
    cases json with
    | null => exact absurd rfl notNull
    | array items =>
      rw [within]
      split <;> nofun
    | object members => exact Source.within_object_ne_null
    | _ => nofun
  rw [option, reads fits]
  · rfl
  · exact isValue

theorem items_reads {decoder : Decoder α} {encode : α → Json} {values : List α}
    (reads : ∀ value ∈ values, decoder.Reads (encode value) value) {budget : Option Nat}
    (fits : Allows budget (Json.depthItems (values.map encode))) :
    items decoder (withinItems budget (values.map encode)) = .ok values := by
  induction values with
  | nil => rfl
  | cons value rest ih =>
    obtain ⟨first, others⟩ := List.forall_mem_cons.mp reads
    rw [List.map_cons, Json.depthItems, Source.allows_max] at fits
    rw [List.map_cons, withinItems, items, first fits.1, ih others fits.2]
    rfl

theorem list_reads {decoder : Decoder α} {encode : α → Json} {values : List α}
    (reads : ∀ value ∈ values, decoder.Reads (encode value) value) :
    (list decoder).Reads (.array (values.map encode)) values := by
  intro budget fits
  obtain ⟨opens, inside⟩ := Source.allows_succ.mp fits
  rw [within, if_neg opens, list, items_reads reads inside]
  rfl

/-- Members are read one after the other if their values are. -/
theorem entries_reads {decoder : Decoder α} {encode : α → Json} {members : List (String × α)}
    (reads : ∀ member ∈ members, decoder.Reads (encode member.2) member.2) {budget : Option Nat}
    (fits : Allows budget
      (Json.depthMembers (members.map fun member => (member.1, encode member.2)))) :
    entries decoder
      (withinMembers budget (members.map fun member => (member.1, encode member.2))) =
        .ok members := by
  induction members with
  | nil => rfl
  | cons member rest ih =>
    obtain ⟨first, others⟩ := List.forall_mem_cons.mp reads
    rw [List.map_cons, Json.depthMembers, Source.allows_max] at fits
    rw [List.map_cons, withinMembers, entries, first fits.1, ih others fits.2]
    rfl

/-- What is read back from JSON under every budget is read back from the value at hand. -/
theorem Reads.ofJson {decoder : Decoder α} {json : Json} {value : α}
    (reads : decoder.Reads json value) : decoder (Source.ofJson json) = .ok value := by
  rw [← Source.within_none]
  exact reads nofun

/-- What is read back from JSON is read back from its text, if that is not nested too deep. -/
theorem text_compact {decoder : Decoder α} {json : Json} {value : α}
    (reads : decoder.Reads json value) (shallow : json.depth ≤ Document.nestingLimit)
    (numbers : ∀ number ∈ json.numbers, number.ReadsBack) :
    text decoder json.compact = .ok value := by
  rw [text, Document.read_compact _ numbers, document, reads (Source.allows_some.mpr shallow)]
  rfl

end Decoder

/-! ## Records -/

namespace Record

/-- The record is read from the members: all are its own, and they fill it to the value. -/
structure Holds (record : Record α) (members : List (String × Json)) (value : α) : Prop where
  own : ∀ member ∈ members, record.keys.any (·.1 == member.1) = true
  fills : ∀ ⦃budget⦄, Allows budget (Json.depthMembers members) → ∃ filled,
    record.fillMembers (withinMembers budget members) record.vacant = .ok filled ∧
      record.build filled = .ok value

theorem fillMembers_cons (record : Record α) (key : String) (source : Source)
    (rest : List (Option String × Source)) (slots : record.Slots) :
    record.fillMembers ((some key, source) :: rest) slots =
      if record.keys.any (·.1 == key) then
        (record.fill key source slots).bind (record.fillMembers rest)
      else if source.wellFormed then record.fillMembers rest slots
      else .error .malformed := rfl

theorem fillMembers_append (record : Record α) (first second : List (Option String × Source))
    (slots : record.Slots) :
    record.fillMembers (first ++ second) slots =
      (record.fillMembers first slots).bind (record.fillMembers second) := by
  induction first generalizing slots with
  | nil => rfl
  | cons member rest ih =>
    rcases member with ⟨_ | key, source⟩
    · rfl
    · rw [List.cons_append, fillMembers_cons, fillMembers_cons]
      split
      · cases record.fill key source slots with
        | error error => rfl
        | ok filled => exact ih filled
      · split
        · exact ih slots
        · rfl

/-- The members of a record fill a larger one as they fill the record, if its slots are part of
those of the larger one. -/
theorem fillMembers_embed {record : Record α} {larger : Record β}
    (embed : record.Slots → larger.Slots) {members : List (String × Json)}
    (own : ∀ member ∈ members, record.keys.any (·.1 == member.1) = true ∧
      larger.keys.any (·.1 == member.1) = true ∧ ∀ source slots,
        larger.fill member.1 source (embed slots) =
          (record.fill member.1 source slots).map embed)
    {budget : Option Nat} {slots filled : record.Slots}
    (fills : record.fillMembers (withinMembers budget members) slots = .ok filled) :
    larger.fillMembers (withinMembers budget members) (embed slots) = .ok (embed filled) := by
  induction members generalizing slots with
  | nil =>
    cases fills
    rfl
  | cons member rest ih =>
    obtain ⟨⟨isOwn, isOwnToo, fillsAlike⟩, others⟩ := List.forall_mem_cons.mp own
    rw [withinMembers, fillMembers_cons, if_pos isOwn] at fills
    obtain ⟨between, taken, goesOn⟩ := Except.bind_eq_ok_iff.mp fills
    rw [withinMembers, fillMembers_cons, if_pos isOwnToo, fillsAlike, taken]
    exact ih others goesOn

namespace Holds

variable {left : Record α} {right : Record β} {members rest : List (String × Json)} {value : α}
  {other : β}

/-- Members of records with different keys are read one after the other. -/
theorem both (first : left.Holds members value) (second : right.Holds rest other)
    (apart : ∀ key ∈ right.keys, left.keys.any (·.1 == key.1) = false) :
    (left.both right).Holds (members ++ rest) (value, other) where
  own := by
    intro member listed
    rw [Record.both, List.any_append, Bool.or_eq_true]
    exact (List.mem_append.mp listed).imp (first.own member) (second.own member)
  fills := by
    intro budget fits
    rw [Json.depthMembers_append, Source.allows_max] at fits
    obtain ⟨filled, fills, builds⟩ := first.fills fits.1
    obtain ⟨filledToo, fillsToo, buildsToo⟩ := second.fills fits.2
    let first' (slots : left.Slots) : (left.both right).Slots := (slots, right.vacant)
    let second' (slots : right.Slots) : (left.both right).Slots := (filled, slots)
    have start := fillMembers_embed first' (fun member listed => by
      have isOwn := first.own member listed
      refine ⟨isOwn, by simp [Record.both, isOwn], fun source slots => ?_⟩
      simp only [Record.both, isOwn, if_true]
      rfl) fills
    have goesOn := fillMembers_embed second' (fun member listed => by
      have isOwn := second.own member listed
      have foreign : left.keys.any (·.1 == member.1) = false := by
        obtain ⟨key, isKey, same⟩ := List.any_eq_true.mp isOwn
        rw [← eq_of_beq same]
        exact apart key isKey
      refine ⟨isOwn, by simp [Record.both, isOwn], fun source slots => ?_⟩
      simp only [Record.both, foreign, Bool.false_eq_true, if_false]
      rfl) fillsToo
    refine ⟨second' filledToo, ?_, ?_⟩
    · rw [Source.withinMembers_append, fillMembers_append]
      exact Except.bind_eq_ok_iff.mpr ⟨_, start, goesOn⟩
    · exact Except.bind_eq_ok_iff.mpr ⟨value, builds,
        Except.bind_eq_ok_iff.mpr ⟨other, buildsToo, rfl⟩⟩

theorem map (holds : left.Holds members value) (f : α → β) :
    (left.map f).Holds members (f value) where
  own := holds.own
  fills := by
    intro budget fits
    obtain ⟨filled, fills, builds⟩ := holds.fills fits
    let embed (slots : left.Slots) : (left.map f).Slots := slots
    have fillsToo := fillMembers_embed embed (fun member listed => by
      refine ⟨holds.own member listed, holds.own member listed, fun source slots => ?_⟩
      show left.fill member.1 source slots = (left.fill member.1 source slots).map embed
      cases left.fill member.1 source slots with
      | error error => rfl
      | ok filled => rfl) fills
    refine ⟨filled, fillsToo, ?_⟩
    simp only [Record.map, builds, Except.map]

/-- A member that is there is read by its decoder. -/
theorem one {key : String} {omittable : Bool} {absent : Option α} {decoder : Decoder α}
    {json : Json} (reads : decoder.Reads json value) :
    (Record.one key omittable absent decoder).Holds [(key, json)] value where
  own := by simp [Record.one]
  fills := by
    intro budget fits
    rw [Json.depthMembers, Source.allows_max] at fits
    have own : (Record.one key omittable absent decoder).keys.any (·.1 == key) = true := by
      simp [Record.one]
    have taken : (Record.one key omittable absent decoder).fill key (within budget json)
        (Record.one key omittable absent decoder).vacant = .ok (some value) := by
      show (decoder (within budget json)).map some = _
      rw [reads fits.1]
      rfl
    refine ⟨some value, ?_, rfl⟩
    rw [withinMembers, fillMembers_cons, if_pos own, taken]
    rfl

theorem member {key : String} {decoder : Decoder α} {json : Json}
    (reads : decoder.Reads json value) : (Record.member key decoder).Holds [(key, json)] value :=
  one reads

/-- A member that is missing is what a record without it has in its place. -/
theorem missing {key : String} {omittable : Bool} {decoder : Decoder α} :
    (Record.one key omittable (some value) decoder).Holds [] value where
  own := List.forall_mem_nil _
  fills _ _ := ⟨none, rfl, rfl⟩

/-- A member in front of others. -/
theorem cons {key : String} {omittable : Bool} {absent : Option α} {decoder : Decoder α}
    {json : Json} (reads : decoder.Reads json value)
    (apart : ∀ entry ∈ right.keys, entry.1 ≠ key) (second : right.Holds rest other) :
    ((Record.one key omittable absent decoder).both right).Holds ((key, json) :: rest)
      (value, other) := by
  refine both (one reads) second fun entry isKey => ?_
  show [(key, omittable)].any (·.1 == entry.1) = false
  rw [List.any_cons, beq_false_of_ne (apart entry isKey).symm]
  rfl

/-- The record is read from the object of its members. -/
theorem reads {record : Record α} (holds : record.Holds members value) :
    record.decoder.Reads (.object members) value := by
  intro budget fits
  obtain ⟨opens, inside⟩ := Source.allows_succ.mp fits
  obtain ⟨filled, fills, builds⟩ := holds.fills inside
  rw [within, if_neg opens]
  exact Except.bind_eq_ok_iff.mpr ⟨filled, fills, builds⟩

end Holds

end Record

end RiskScoring

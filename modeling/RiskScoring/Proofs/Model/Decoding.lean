import RiskScoring.Model.Codec
import RiskScoring.Proofs.Json.Decoding

/-!
# Data models are read back

A data model is written with its names as keys. Whatever the keys of its tables, fields and links
are, and in whatever order they stand, the data model is read back from its JSON.

* `Dict.reads`: a dictionary is read back if its values are.
* `DataModel.reads`: a data model is read back.
-/

namespace RiskScoring

open Source (within)

/-- A dictionary is read back if its values are: no key is lost, and the order is the same. -/
theorem Dict.reads {α : Type} {decoder : Decoder α} {encode : α → Json} {dict : Dict String α}
    (values : ∀ entry ∈ dict.entries, decoder.Reads (encode entry.2) entry.2) :
    (Dict.decoder decoder).Reads (dict.toJson encode) dict := by
  intro budget fits
  obtain ⟨opens, inside⟩ := Source.allows_succ.mp fits
  have members : Decoder.members decoder (within budget (dict.toJson encode)) =
      .ok dict.entries := by
    rw [toJson, within, if_neg opens, Decoder.members, Decoder.entries_reads values inside]
    rfl
  rw [Dict.decoder, members, Except.map, ofList_entries]

open Record.Holds (cons one member)

theorem Field.reads (field : Field) : record.decoder.Reads field.toJson field := by
  have dataType : (Decoder.name DataType.ofJsonName?).Reads (.string field.dataType.jsonName)
      field.dataType := Decoder.name_reads (by cases field.dataType <;> decide)
  have members : record.Holds _ field :=
    .map (cons dataType (by decide) (one (Decoder.bool_reads field.nullable))) _
  exact members.reads

theorem Link.reads (link : Link) : record.decoder.Reads link.toJson link := by
  have members : record.Holds _ link :=
    .map (cons (Decoder.string_reads link.table) (by decide)
      (cons (Decoder.string_reads link.parentField) (by decide)
        (member (Decoder.string_reads link.childField)))) _
  exact members.reads

/-- A table is read back, under whatever key it is stored. -/
theorem Table.reads (table : Table) : decoder.Reads table.toJson table := by
  have fields : (Dict.decoder Field.record.decoder).Reads (table.fields.toJson Field.toJson)
      table.fields := Dict.reads fun entry _ => entry.2.reads
  have links : (Dict.decoder Link.record.decoder).Reads (table.links.toJson Link.toJson)
      table.links := Dict.reads fun entry _ => entry.2.reads
  have members : record.Holds _ table :=
    .map (cons (Decoder.string_reads table.name) (by decide)
      (cons fields (by decide) (one links))) _
  exact members.reads

/-- A data model is read back. -/
theorem DataModel.reads (model : DataModel) : decoder.Reads model.toJson model := by
  have tables : (Dict.decoder Table.decoder).Reads (model.tables.toJson Table.toJson)
      model.tables := Dict.reads fun entry _ => entry.2.reads
  have members : record.Holds _ model := .map (member tables) DataModel.mk
  exact members.reads

end RiskScoring

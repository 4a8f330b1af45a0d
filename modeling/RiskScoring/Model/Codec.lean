import RiskScoring.Model.Basic

/-!
# Data models as JSON

Names become keys: the tables of a model, the fields and the links of a table are members of
objects. A name that occurs twice takes its last meaning.
-/

namespace RiskScoring

/-- A dictionary as a JSON object. -/
def Dict.toJson {α : Type} (encode : α → Json) (dict : Dict String α) : Json :=
  .object (dict.entries.map fun entry => (entry.1, encode entry.2))

def Dict.decoder {α : Type} (decoder : Decoder α) : Decoder (Dict String α) := fun source =>
  (Decoder.members decoder source).map Dict.ofList

namespace Field

def toJson (field : Field) : Json :=
  .object [("data_type", .string field.dataType.jsonName), ("nullable", .bool field.nullable)]

def record : Record Field :=
  .map (fun (dataType, nullable) => ⟨dataType, nullable⟩)
    (.both (.member "data_type" (Decoder.name DataType.ofJsonName?))
      (.withDefault "nullable" false Decoder.bool))

end Field

namespace Link

def toJson (link : Link) : Json :=
  .object [("linked_table_name", .string link.table),
    ("parent_field_name", .string link.parentField),
    ("child_field_name", .string link.childField)]

def record : Record Link :=
  .map (fun (table, parentField, childField) => ⟨table, parentField, childField⟩)
    (.both (.member "linked_table_name" Decoder.string)
      (.both (.member "parent_field_name" Decoder.string)
        (.member "child_field_name" Decoder.string)))

end Link

namespace Table

def toJson (table : Table) : Json :=
  .object [("name", .string table.name), ("fields", table.fields.toJson Field.toJson),
    ("links_to_single", table.links.toJson Link.toJson)]

def record : Record Table :=
  .map (fun (name, fields, links) => ⟨name, fields, links⟩)
    (.both (.member "name" Decoder.string)
      (.both (.member "fields" (Dict.decoder Field.record.decoder))
        (.withDefault "links_to_single" .empty (Dict.decoder Link.record.decoder))))

def decoder : Decoder Table := record.decoder

end Table

namespace DataModel

def toJson (model : DataModel) : Json := .object [("tables", model.tables.toJson Table.toJson)]

def record : Record DataModel := .map DataModel.mk (.member "tables" (Dict.decoder Table.decoder))

def decoder : Decoder DataModel := record.decoder

end DataModel

end RiskScoring

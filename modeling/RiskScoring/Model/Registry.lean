import RiskScoring.Model.Basic
import RiskScoring.StoreError

/-!
# Registered data models

Each organization has at most one data model.
-/

namespace RiskScoring

/-- The data models of all organizations. -/
structure ModelRegistry where
  models : Dict Uuid DataModel

namespace ModelRegistry

/-- No data model. -/
def empty : ModelRegistry := ⟨.empty⟩

/-- Sets the data model of an organization. -/
def insert (registry : ModelRegistry) (organization : Uuid) (model : DataModel) : ModelRegistry :=
  ⟨registry.models.insert organization model⟩

/-- The data model of an organization. -/
def get (registry : ModelRegistry) (organization : Uuid) : Except StoreError DataModel :=
  match registry.models.get? organization with
  | some model => .ok model
  | none => .error (.notFound (.dataModel organization))

/-- The table of a key in the data model of an organization. -/
def table (registry : ModelRegistry) (organization : Uuid) (key : String) :
    Except StoreError Table := do
  let model ← registry.get organization
  match model.tables.get? key with
  | some table => return table
  | none => throw (.notFound (.table key))

end ModelRegistry

end RiskScoring

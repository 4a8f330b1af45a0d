import RiskScoring.Uuid

/-!
# Store errors

What the stores of scenarios and data models answer when they cannot do what is asked.
-/

namespace RiskScoring

/-- What was looked for and is not there. -/
inductive Missing where
  | scenario (id : Uuid)
  | iteration (id : Uuid)
  | publication (id : Uuid)
  | dataModel (organization : Uuid)
  | table (name : String)
deriving DecidableEq, Repr

namespace Missing

/-- What is missing, in words. -/
def text : Missing → String
  | scenario id => s!"scenario '{id}'"
  | iteration id => s!"scenario iteration '{id}'"
  | publication id => s!"scenario publication '{id}'"
  | dataModel organization => s!"data model '{organization}'"
  | table name => s!"table '{name}'"

instance : ToString Missing := ⟨text⟩

end Missing

/-- Why a store refuses. -/
inductive StoreError where
  | notFound (what : Missing)
  /-- The scenario is no longer as it was expected to be. -/
  | conflict (scenario : Uuid)
  /-- The iteration has been live and is no draft any more. -/
  | immutable (iteration : Uuid)
deriving DecidableEq, Repr

namespace StoreError

def name : StoreError → String
  | notFound _ => "NotFound"
  | conflict _ => "Conflict"
  | immutable _ => "IterationImmutable"

def message : StoreError → String
  | notFound what => s!"{what} not found"
  | conflict scenario => s!"Concurrent modification of scenario '{scenario}'"
  | immutable iteration =>
    s!"Scenario iteration '{iteration}' has already been published and can no longer be modified"

end StoreError

end RiskScoring

import RiskScoring.Evaluation.Accessor

/-!
# Access to the ingested rows

`Ingest.Scope` fixes an organization, its data model and a payload. Its accessor opens a
transaction at the first read of a stored field and keeps it for the reads that follow, until
`Session.release` gives it back.
-/

namespace RiskScoring

namespace Ingest

/-- What the reads for one object have in common. -/
structure Scope where
  organization : Uuid
  model : DataModel
  payload : Payload

/-- The store, and whether a transaction is held. -/
structure Session where
  store : Store
  held : Bool

namespace Session

/-- A session that holds no transaction. -/
def start (store : Store) : Session := ⟨store, false⟩

/-- Gives the transaction back, if one is held. -/
def release (session : Session) : Store :=
  if session.held then session.store.closeTransaction else session.store

/-- Opens a transaction, unless one is held. -/
def acquire (session : Session) : Except StorageError Unit × Session :=
  if session.held then (.ok (), session)
  else
    match session.store.openTransaction with
    | (.ok (), store) => (.ok (), ⟨store, true⟩)
    | (.error error, store) => (.error error, ⟨store, false⟩)

end Session

namespace Scope

/-- Checks a read of a stored field against the data model. -/
def check (scope : Scope) (path : List String) (name : String) (type : FieldType) :
    Except EvaluationError Unit :=
  match scope.model.resolve scope.payload.table path name with
  | .error error => .error (.inconsistent (.model error))
  | .ok field =>
    if field.dataType.accepts type then .ok ()
    else .error (.inconsistent (.fieldType name field.dataType type))

/-- Reads a stored field. A failed read keeps the transaction, a failed opening leaves none. -/
def read (scope : Scope) (path : List String) (name : String) (session : Session) :
    Except EvaluationError (Option Value) × Session :=
  match session.acquire with
  | (.error error, session) => (.error (.readFailed error), session)
  | (.ok (), session) =>
    match session.store.readField scope.organization scope.model scope.payload path name with
    | (.ok value, store) => (.ok value, { session with store })
    | (.error error, store) => (.error (.readFailed error), { session with store })

/-- The accessor of a scope. -/
def accessor (scope : Scope) : Accessor Session where
  payloadField name := pure (scope.payload.get? name)
  checkStored path name type := liftExcept (scope.check path name type)
  storedField path name := ExceptT.mk fun session => scope.read path name session

end Scope

end Ingest

end RiskScoring

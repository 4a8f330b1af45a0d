import RiskScoring.Proofs.Evaluation.Agreement
import RiskScoring.Proofs.Evaluation.Logged

/-!
# Access to a store that is shared

While an object is scored the store does not stand still: other workers read it, and reads and
openings are made to fail. `Accessor.shared` lets others act on the store before each call, and it
writes every call down, with the session before and after it. What others do is a parameter, so
whatever holds for all of them holds however the calls of several workers fall between each other.

* `Others`, `Ingest.Call`, `Accessor.shared`: what others do, and the calls among it.
* `Accessor.shared_idle_agrees`: if others do nothing, the accessor is the one that is shared.
* `Others.Calm`, `Ingest.Scope.shared_agrees`: if others keep the rows and bring no failures, calls
  have the answers that they have without others.
-/

namespace RiskScoring

open Ingest

variable {α : Type}

/-- What others do to a store before a call, by the number of calls before that. -/
abbrev Others := Nat → Store → Store

/-- Others do nothing. -/
def Others.idle : Others := fun _ store => store

namespace Ingest

/-- The session after others have acted on its store. -/
def Session.meanwhile (session : Session) (act : Store → Store) : Session :=
  { session with store := act session.store }

/-- A call of an accessor: what it asked for, the session before and after it, and whether it ended
with an error. -/
structure Call where
  access : Access
  before : Session
  after : Session
  failed : Bool

/-- Lets others act, makes a call and writes it down. -/
def Call.make (others : Others) (access : Access) (fails : α → Bool) (call : StateM Session α) :
    StateM (Session × List Call) α := fun (session, calls) =>
  let before := session.meanwhile (others calls.length)
  let (answer, after) := call.run before
  (answer, after, calls ++ [⟨access, before, after, fails answer⟩])

end Ingest

/-- The accessor on a store that is shared with others. -/
def Accessor.shared (accessor : Accessor Session) (others : Others) :
    Accessor (Session × List Ingest.Call) where
  payloadField name :=
    Ingest.Call.make others (.payload name) (fun _ => false) (accessor.payloadField name)
  checkStored path name type := ExceptT.mk <|
    Ingest.Call.make others (.check path name type) (fun answer => !answer.isOk)
      (accessor.checkStored path name type).run
  storedField path name := ExceptT.mk <|
    Ingest.Call.make others (.stored path name) (fun answer => !answer.isOk)
      (accessor.storedField path name).run

/-- Without others, sharing an accessor changes nothing. -/
theorem Accessor.shared_idle_agrees (accessor : Accessor Session) :
    (accessor.shared .idle).Agrees (fun shared session => shared.1 = session) accessor where
  payloadField name := by
    rintro ⟨session, calls⟩ _ rfl
    exact ⟨rfl, rfl⟩
  checkStored path name type := by
    rintro ⟨session, calls⟩ _ rfl
    exact ⟨rfl, rfl⟩
  storedField path name := by
    rintro ⟨session, calls⟩ _ rfl
    exact ⟨rfl, rfl⟩

namespace Ingest

/-! ## Calls of a scope -/

namespace Scope

theorem run_checkStored (scope : Scope) (path : List String) (name : String) (type : FieldType)
    (session : Session) : (scope.accessor.checkStored path name type).run.run session =
      (scope.check path name type, session) :=
  Reading.runFrom_liftExcept (scope.check path name type) session

end Scope

/-! ## Others that bring no failures -/

/-- The store has the rows, and no failure is to come. -/
structure Store.Calm (rows : List StoredRow) (store : Store) : Prop where
  rows : store.rows = rows
  failures : store.failures = 0

variable {rows : List StoredRow} {session : Session} {store : Store}

theorem Session.Calm.toStore (calm : session.Calm rows) : session.store.Calm rows :=
  ⟨calm.rows, calm.failures⟩

theorem Store.Calm.start (calm : store.Calm rows) : (Session.start store).Calm rows :=
  ⟨calm.rows, calm.failures⟩

theorem Store.Calm.ready (calm : store.Calm rows) : store.Ready rows :=
  ⟨calm.rows, Nat.eq_zero_of_add_eq_zero_left calm.failures⟩

theorem Store.Calm.failingReads (calm : store.Calm rows) : store.failingReads = 0 :=
  Nat.eq_zero_of_add_eq_zero_right calm.failures

theorem Session.Calm.release (calm : session.Calm rows) : session.release.Calm rows := by
  unfold Session.release
  split
  · exact ⟨calm.rows, calm.failures⟩
  · exact calm.toStore

end Ingest

/-- Others keep the rows and bring no failures. -/
def Others.Calm (others : Others) (rows : List StoredRow) : Prop :=
  ∀ count store, store.Calm rows → (others count store).Calm rows

theorem Others.Calm.idle (rows : List StoredRow) : Others.idle.Calm rows :=
  fun _ _ calm => calm

namespace Ingest.Scope

variable {rows : List StoredRow} {others : Others}

/-- A read is such an act of another worker. -/
theorem calm_of_read (scope : Scope) (path : List String) (name : String) {session : Session}
    (calm : session.Calm rows) : (scope.read path name session).2.Calm rows := by
  obtain ⟨after, ends, afterCalm⟩ := scope.read_of_calm calm path name
  rw [ends]
  exact afterCalm

/-- Calls among others that keep the rows and bring no failures have the answers that they have
alone. -/
theorem shared_agrees (scope : Scope) (calm : others.Calm rows) :
    (scope.accessor.shared others).Agrees
      (fun shared session => shared.1.Calm rows ∧ session.Calm rows) scope.accessor := by
  have acted {session : Session} (isCalm : session.Calm rows) (count : Nat) :
      (session.meanwhile (others count)).Calm rows := by
    have kept := calm count session.store isCalm.toStore
    exact ⟨kept.rows, kept.failures⟩
  constructor
  · rintro name ⟨session, calls⟩ alone ⟨isCalm, aloneCalm⟩
    exact ⟨rfl, acted isCalm calls.length, aloneCalm⟩
  · rintro path name type ⟨session, calls⟩ alone ⟨isCalm, aloneCalm⟩
    have ends := scope.run_checkStored path name type (session.meanwhile (others calls.length))
    have aloneEnds := scope.run_checkStored path name type alone
    refine ⟨(congrArg Prod.fst ends).trans (congrArg Prod.fst aloneEnds).symm, ?_, ?_⟩
    · show ((scope.accessor.checkStored path name type).run.run _).2.Calm rows
      rw [ends]
      exact acted isCalm calls.length
    · rw [aloneEnds]
      exact aloneCalm
  · rintro path name ⟨session, calls⟩ alone ⟨isCalm, aloneCalm⟩
    obtain ⟨after, ends, afterCalm⟩ := scope.read_of_calm (acted isCalm calls.length) path name
    obtain ⟨aloneAfter, aloneEnds, aloneAfterCalm⟩ := scope.read_of_calm aloneCalm path name
    refine ⟨(congrArg Prod.fst ends).trans (congrArg Prod.fst aloneEnds).symm, ?_, ?_⟩
    · exact scope.calm_of_read path name (acted isCalm calls.length)
    · exact scope.calm_of_read path name aloneCalm

end Ingest.Scope

end RiskScoring

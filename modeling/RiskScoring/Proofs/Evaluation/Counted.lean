import Mathlib.Logic.Function.Iterate
import RiskScoring.Proofs.Evaluation.Steady

/-!
# Counting the reads of the store

A fetch reads the store at most once. If it does, the read is counted, it holds the transaction
from then on, and it takes one of the failures that are to come. So all that a formula does to its
session is a number of such touches, and a failure that is to come hits the first of them.

* `Ingest.Session.touch`: the session after one more read of the store.
* `Ingest.Scope.admits`, `Ingest.Scope.fetch_of_opens`: which fetches read the store, and what a
  fetch does and answers.
* `Reading.Counted`: a reading has one result and one number of reads while no failure is to come,
  and otherwise the first of these reads is the end.
* `Expression.evaluateBool_counted`: evaluation is counted.
* `Expression.evaluateBool_ne_readFailed`: a read fails only if that was to come.
-/

namespace RiskScoring

namespace Ingest

/-! ## Sessions -/

/-- The store has the rows, and no opening is to fail. Reads may be. -/
structure Store.Ready (rows : List StoredRow) (store : Store) : Prop where
  rows : store.rows = rows
  opens : store.failingOpenings = 0

namespace Session

/-- The session after one more read of the store: the read is counted, the transaction that it
needs is held from then on, and it has taken a failure, if one was to come. -/
def touch (session : Session) : Session where
  store := { session.store with
    reads := session.store.reads + 1
    begun := if session.held then session.store.begun else session.store.begun + 1
    opened := if session.held then session.store.opened else session.store.opened + 1
    asked := if session.held then session.store.asked else session.store.asked + 1
    failingReads := session.store.failingReads - 1 }
  held := true

variable {rows : List StoredRow} {session : Session}

theorem ready_touch (ready : session.store.Ready rows) : session.touch.store.Ready rows :=
  ⟨ready.rows, ready.opens⟩

theorem ready_touches (ready : session.store.Ready rows) (count : Nat) :
    (touch^[count] session).store.Ready rows := by
  induction count generalizing session with
  | zero => exact ready
  | succ count ih => exact ih (ready_touch ready)

@[simp]
theorem reads_touches (count : Nat) (session : Session) :
    (touch^[count] session).store.reads = session.store.reads + count := by
  induction count generalizing session with
  | zero => rfl
  | succ count ih =>
    rw [Function.iterate_succ_apply, ih]
    show session.store.reads + 1 + count = session.store.reads + (count + 1)
    omega

@[simp]
theorem failingReads_touches (count : Nat) (session : Session) :
    (touch^[count] session).store.failingReads = session.store.failingReads - count := by
  induction count generalizing session with
  | zero => rfl
  | succ count ih =>
    rw [Function.iterate_succ_apply, ih]
    show session.store.failingReads - 1 - count = session.store.failingReads - (count + 1)
    omega

/-- Sessions without failures to come stay without. -/
theorem failingReads_touches_of_zero (none : session.store.failingReads = 0) (count : Nat) :
    (touch^[count] session).store.failingReads = 0 := by
  rw [failingReads_touches, none, Nat.zero_sub]

/-- A session without failures to come is one that has no failing reads and no failing openings. -/
theorem calm_iff :
    session.Calm rows ↔ session.store.Ready rows ∧ session.store.failingReads = 0 := by
  constructor
  · intro calm
    have none := calm.failures
    unfold Store.failures at none
    exact ⟨⟨calm.rows, by omega⟩, by omega⟩
  · rintro ⟨ready, none⟩
    refine ⟨ready.rows, ?_⟩
    rw [Store.failures, none, ready.opens]

theorem acquire_of_opens (opens : session.store.failingOpenings = 0) :
    session.acquire = (.ok (), { session with
      store := { session.store with
        begun := if session.held then session.store.begun else session.store.begun + 1
        opened := if session.held then session.store.opened else session.store.opened + 1
        asked := if session.held then session.store.asked else session.store.asked + 1 }
      held := true }) := by
  rcases session with ⟨store, held⟩
  change store.failingOpenings = 0 at opens
  cases held with
  | true => simp [acquire]
  | false => simp [acquire, Store.openTransaction, opens]

end Session

/-! ## Fetches -/

namespace Scope

variable {scope : Scope} {rows : List StoredRow} {session : Session}

/-- A read of the storage touches it once, and answers unless a failure was to come. -/
theorem read_of_ready (scope : Scope) (ready : session.store.Ready rows) (path : List String)
    (name : String) :
    scope.read path name session =
      (if session.store.failingReads = 0 then
        (lookup rows scope.organization scope.model scope.payload path name).mapError
          fun error => .readFailed (.model error)
      else .error (.readFailed .readFailed), session.touch) := by
  unfold read
  rw [Session.acquire_of_opens ready.opens, ← ready.rows]
  simp only [Store.readField, Session.touch]
  by_cases none : session.store.failingReads = 0
  · simp only [if_pos none]
    rw [none]
    cases lookup session.store.rows scope.organization scope.model scope.payload path name with
    | error error => rfl
    | ok value? => rfl
  · simp only [if_neg none]

/-- Whether a read asks the storage: it is one of a stored field, and it fits the data model. -/
def admits (scope : Scope) : FieldRead → Bool
  | .payload .. => false
  | .stored type path name => (scope.check path name type).isOk

theorem admits_payload (scope : Scope) (type : FieldType) (name : String) :
    scope.admits (.payload type name) = false := rfl

theorem admits_of_error {type : FieldType} {path : List String} {name : String}
    {error : EvaluationError} (refused : scope.check path name type = .error error) :
    scope.admits (.stored type path name) = false := by
  rw [admits, refused]
  rfl

theorem admits_of_ok {type : FieldType} {path : List String} {name : String}
    (passes : scope.check path name type = .ok ()) :
    scope.admits (.stored type path name) = true := by
  rw [admits, passes]
  rfl

theorem answer_of_error {type : FieldType} {path : List String} {name : String}
    {error : EvaluationError} (refused : scope.check path name type = .error error) :
    scope.answer rows (.stored type path name) = .error error := by
  rw [answer, refused]
  rfl

theorem answer_of_ok {type : FieldType} {path : List String} {name : String}
    (passes : scope.check path name type = .ok ()) :
    scope.answer rows (.stored type path name) =
      (lookup rows scope.organization scope.model scope.payload path name).mapError
        fun error => .readFailed (.model error) := by
  rw [answer, passes]
  rfl

/-- What a fetch does and answers, if no opening is to fail: the store is touched by the reads that
are admitted, and these fail if that was to come. -/
theorem fetch_of_ready (scope : Scope) (ready : session.store.Ready rows) (read : FieldRead) :
    (scope.accessor.fetch read).runFrom session =
      if scope.admits read = true then
        (if session.store.failingReads = 0 then scope.answer rows read >>= read.trace
          else .error (.readFailed .readFailed), session.touch)
      else (scope.answer rows read >>= read.trace, session) := by
  cases read with
  | payload type name =>
    rw [admits_payload, if_neg Bool.false_ne_true]
    exact scope.accessor.fetch_payload type name session
  | stored type path name =>
    have checks : (scope.accessor.checkStored path name type).runFrom session =
        (scope.check path name type, session) := Reading.runFrom_liftExcept _ _
    have reads : (scope.accessor.storedField path name).runFrom session = _ :=
      scope.read_of_ready ready path name
    cases checked : scope.check path name type with
    | error error =>
      rw [checked] at checks
      rw [admits_of_error checked, if_neg Bool.false_ne_true, answer_of_error checked,
        Accessor.fetch_stored, Reading.runFrom_bind_error checks]
      rfl
    | ok allowed =>
      rw [checked] at checks
      rw [admits_of_ok checked, if_pos rfl, answer_of_ok checked, Accessor.fetch_stored,
        Reading.runFrom_bind_ok checks]
      by_cases none : session.store.failingReads = 0
      · rw [if_pos none] at reads ⊢
        cases found : lookup rows scope.organization scope.model scope.payload path name with
        | error error =>
          rw [found] at reads
          exact Reading.runFrom_bind_error reads _
        | ok value? =>
          rw [found] at reads
          rw [Reading.runFrom_bind_ok reads]
          exact Reading.runFrom_liftExcept _ _
      · rw [if_neg none] at reads ⊢
        exact Reading.runFrom_bind_error reads _

/-- A refusal of the data model is no failure of the storage, and what it lets pass the storage can
look up: the walks of the check and of the storage agree. -/
theorem check_cases (scope : Scope) (rows : List StoredRow) (path : List String) (name : String)
    (type : FieldType) :
    (∃ cause, scope.check path name type = .error (.inconsistent cause)) ∨
      scope.check path name type = .ok () ∧
        ∃ value?, lookup rows scope.organization scope.model scope.payload path name =
          .ok value? := by
  unfold check
  cases resolves : scope.model.resolve scope.payload.table path name with
  | error error => exact Or.inl ⟨_, rfl⟩
  | ok field =>
    by_cases accepted : field.dataType.accepts type = true
    · exact Or.inr ⟨if_pos accepted, lookup_isOk_of_resolve resolves⟩
    · exact Or.inl ⟨_, if_neg accepted⟩

/-- What a read finds is never an error of the storage. -/
theorem answer_ne_readFailed (scope : Scope) (rows : List StoredRow) (read : FieldRead)
    (cause : StorageError) :
    (scope.answer rows read >>= read.trace) ≠ .error (.readFailed cause) := by
  have traced (value? : Option Value) : read.trace value? ≠ .error (.readFailed cause) := by
    intro fails
    rcases FieldRead.trace_error fails with ⟨-, missing⟩ | ⟨_, -, -, mismatch⟩
    · cases missing
    · cases mismatch
  cases read with
  | payload type name => exact traced _
  | stored type path name =>
    rcases scope.check_cases rows path name type with ⟨fault, refused⟩ | ⟨passes, value?, finds⟩
    · rw [answer_of_error refused]
      intro fails
      cases fails
    · rw [answer_of_ok passes, finds]
      exact traced value?

end Scope

end Ingest

/-! ## Counted readings -/

namespace Reading

open Ingest

variable {α β : Type} {rows : List StoredRow}

/-- From every session that has the rows the reading has the result after a number of reads of the
store. If reads are to fail, the first of these reads is the end. -/
def Counted (rows : List StoredRow) (reading : Reading Session α)
    (result : Except EvaluationError α) (count : Nat) : Prop :=
  ∀ session, session.store.Ready rows → reading.runFrom session =
    if count = 0 ∨ session.store.failingReads = 0 then (result, Session.touch^[count] session)
    else (.error (.readFailed .readFailed), session.touch)

theorem Counted.check (check : Except EvaluationError α) :
    Counted rows (liftExcept check) check 0 := by
  intro session _
  rw [if_pos (Or.inl rfl)]
  exact runFrom_liftExcept check session

theorem Counted.bind_error {reading : Reading Session α} {next : α → Reading Session β}
    {error : EvaluationError} {count : Nat} (first : reading.Counted rows (.error error) count) :
    Counted rows (reading >>= next) (.error error) count := by
  intro session ready
  have ends := first session ready
  split at ends
  · rw [runFrom_bind_error ends, if_pos ‹_›]
  · rw [runFrom_bind_error ends, if_neg ‹_›]

theorem Counted.bind_ok {reading : Reading Session α} {next : α → Reading Session β} {value : α}
    {result : Except EvaluationError β} {count later : Nat}
    (first : reading.Counted rows (.ok value) count)
    (second : (next value).Counted rows result later) :
    Counted rows (reading >>= next) result (count + later) := by
  intro session ready
  have ends := first session ready
  by_cases goesOn : count = 0 ∨ session.store.failingReads = 0
  · rw [if_pos goesOn] at ends
    rw [runFrom_bind_ok ends, second _ (Session.ready_touches ready count),
      ← Function.iterate_add_apply,
      Nat.add_comm later count]
    rcases goesOn with rfl | none
    · rw [Nat.zero_add]
      rfl
    · rw [if_pos (Or.inr (Session.failingReads_touches_of_zero none count)), if_pos (Or.inr none)]
  · rw [if_neg goesOn] at ends
    rw [runFrom_bind_error ends, if_neg (by omega)]

/-- The reading has one result and one number of reads. -/
def IsCounted (rows : List StoredRow) (reading : Reading Session α) : Prop :=
  ∃ result count, reading.Counted rows result count

/-- To be counted is kept by checks and by going on. -/
theorem isCounted_parametric :
    Parametric (fun {_} (reading : Reading Session _) (_ : Reading Session _) =>
      reading.IsCounted rows) where
  check check := ⟨check, 0, .check check⟩
  bind := by
    rintro _ _ reading _ next _ ⟨result, count, first⟩ goesOn
    cases result with
    | error error => exact ⟨_, _, first.bind_error⟩
    | ok value =>
      obtain ⟨last, later, second⟩ := goesOn value
      exact ⟨_, _, first.bind_ok second⟩

end Reading

namespace Ingest.Scope

variable {rows : List StoredRow}

theorem fetch_counted (scope : Scope) (rows : List StoredRow) (read : FieldRead) :
    (scope.accessor.fetch read).Counted rows (scope.answer rows read >>= read.trace)
      (if scope.admits read = true then 1 else 0) := by
  intro session ready
  rw [fetch_of_ready scope ready read]
  by_cases admitted : scope.admits read = true
  · simp only [if_pos admitted]
    by_cases none : session.store.failingReads = 0
    · rw [if_pos none, if_pos (Or.inr none)]
      rfl
    · rw [if_neg none, if_neg (by omega)]
  · rw [if_neg admitted, if_neg admitted, if_pos (Or.inl rfl)]
    rfl

end Ingest.Scope

namespace Expression

open Ingest

variable {scope : Scope} {rows : List StoredRow} {session : Session}

/-- Evaluation has one result and one number of reads, whatever was evaluated before. -/
theorem evaluateBool_counted (scope : Scope) (rows : List StoredRow) (formula : Expression) :
    (formula.evaluateBool scope.accessor).IsCounted rows :=
  evaluateBool_related scope.accessor scope.accessor Reading.isCounted_parametric
    (fun read => ⟨_, _, scope.fetch_counted rows read⟩) formula

/-- Fetches that succeed keep a session calm. -/
theorem calm_of_trail {reads : List FieldRead} {before after : Session}
    (trail : scope.accessor.Trail reads before after) (calm : before.Calm rows) :
    after.Calm rows := by
  induction trail with
  | stay session => exact calm
  | @step session next last read trace _ fetches _ ih =>
    obtain ⟨later, laterCalm, alsoFetches⟩ := scope.fetch_gives rows read session calm
    obtain rfl : next = later := (Prod.mk.inj (fetches.symm.trans alsoFetches)).2
    exact ih laterCalm

/-- While no failure is to come, no read fails, whatever the data model says. -/
theorem evaluateBool_ne_readFailed (formula : Expression) (calm : session.Calm rows)
    (cause : StorageError) :
    ((formula.evaluateBool scope.accessor).runFrom session).1 ≠ .error (.readFailed cause) := by
  cases validated : formula.validate with
  | error malformation =>
    rw [evaluateBool, evaluate_of_invalid validated]
    exact fun fails => nomatch fails
  | ok checked =>
    have sound : (formula.evaluate scope.accessor).Sound scope.accessor formula.reads
        (fun value => value.type = formula.returnType) := evaluate_sound validated
    have ends := sound session
    rcases evaluated : (formula.evaluate scope.accessor).runFrom session with ⟨result, after⟩
    rw [evaluated] at ends
    rw [evaluateBool]
    cases ends with
    | @value value _ trail _ =>
      rw [Reading.runFrom_bind_ok evaluated]
      cases value with
      | bool value => exact fun fails => nomatch fails
      | _ => exact fun fails => nomatch fails
    | divided trail =>
      rw [Reading.runFrom_bind_error evaluated]
      exact fun fails => nomatch fails
    | @failed read error before _ trail _ fails =>
      rw [Reading.runFrom_bind_error evaluated]
      obtain ⟨later, -, fetches⟩ := scope.fetch_gives rows read before (calm_of_trail trail calm)
      obtain ⟨answered, -⟩ := Prod.mk.inj (fails.symm.trans fetches)
      intro isFailed
      cases isFailed
      exact scope.answer_ne_readFailed rows read cause answered.symm

end Expression

end RiskScoring

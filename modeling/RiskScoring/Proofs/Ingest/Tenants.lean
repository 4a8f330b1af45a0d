import Mathlib.Data.List.Forall2
import RiskScoring.Proofs.Evaluation.Transactions

/-!
# What an organization sees of a store

A read looks for rows of one organization only, table by table. So two stores that hold the same
rows of the organization, in the same order for each table, and have the same failures to come, give
it the same answers, whatever they hold of others. The counters count the reads of all, so they may
differ; but a read moves them by the same amounts.

* `Ingest.rowsOf`, `Ingest.lookup_congr`: the rows of a table of an organization, and that a read
  depends on these only.
* `Ingest.Store.AlikeFor`, `Ingest.Store.SameGrowth`: stores that an organization cannot tell apart,
  and counters that have moved by the same amounts.
* `Ingest.Session.AlikeFor`, `Ingest.Session.AlikeFor.read`: sessions, and that a read has the same
  answer and moves the counters by the same amounts.
* `Ingest.Store.Twins`, `Ingest.Session.Twins`, `Ingest.Scope.accessor_twins`: both, since a start,
  and that the accessor of a scope keeps two sessions so.
* `Ingest.Call.AlikeFor`, `Ingest.Scope.shared_alike`: calls among others that an organization
  cannot tell apart.
-/

namespace RiskScoring

namespace Ingest

/-! ## Rows -/

/-- The rows of a table of an organization, in the order they came. -/
def rowsOf (rows : List StoredRow) (organization : Uuid) (table : String) : List Row :=
  (rows.filter fun row => row.organization == organization && row.table == table).map
    StoredRow.fields

/-- A row is looked for among the rows of the table of the organization. -/
theorem findRow_eq_find? (rows : List StoredRow) (organization : Uuid) (table field : String)
    (key : Value) : findRow rows organization table field key =
      (rowsOf rows organization table).find? fun fields =>
        match fields.get? field with
        | some value => value.equals key
        | none => false := by
  rw [rowsOf, List.find?_map, List.find?_filter, findRow]
  refine congrArg (fun test => Option.map StoredRow.fields (rows.find? test)) (funext fun row => ?_)
  rw [Bool.decide_and, Bool.decide_eq_true, Bool.decide_eq_true]
  rfl

section

variable {rows others : List StoredRow} {organization : Uuid}

/-- Links lead through the rows of the organization. -/
theorem joinPath_congr (same : ∀ table, rowsOf rows organization table =
      rowsOf others organization table) (model : DataModel) (path : List String) (table : Table)
    (row : Row) : joinPath rows organization model table row path =
      joinPath others organization model table row path := by
  induction path generalizing table row with
  | nil => rfl
  | cons name rest ih =>
    have sameRow (linked field : String) (key : Value) :
        findRow rows organization linked field key =
          findRow others organization linked field key := by
      rw [findRow_eq_find?, findRow_eq_find?, same]
    simp only [joinPath, sameRow, ih]

theorem lookup_congr (same : ∀ table, rowsOf rows organization table =
      rowsOf others organization table) (model : DataModel) (payload : Payload)
    (path : List String) (name : String) :
    lookup rows organization model payload path name =
      lookup others organization model payload path name := by
  simp only [lookup, joinPath_congr same]

end

/-! ## Stores -/

namespace Store

/-- An organization cannot tell the stores apart: they hold the same rows of it, in the same order
for each table, and the same failures are to come. -/
structure AlikeFor (organization : Uuid) (one other : Store) : Prop where
  rows : ∀ table, rowsOf one.rows organization table = rowsOf other.rows organization table
  failingReads : one.failingReads = other.failingReads
  failingOpenings : one.failingOpenings = other.failingOpenings

/-- The counters of two stores have moved by the same amounts. -/
structure SameGrowth (start otherStart one other : Store) : Prop where
  reads : (one.reads : Int) - start.reads = other.reads - otherStart.reads
  begun : (one.begun : Int) - start.begun = other.begun - otherStart.begun
  opened : (one.opened : Int) - start.opened = other.opened - otherStart.opened
  asked : (one.asked : Int) - start.asked = other.asked - otherStart.asked

/-- Stores that an organization cannot tell apart, and whose counters have moved by the same amounts
since a start. -/
structure Twins (organization : Uuid) (start otherStart one other : Store) : Prop where
  alike : AlikeFor organization one other
  growth : SameGrowth start otherStart one other

/-- A read counts, takes a failure if one is to come, and looks the field up if not. -/
theorem readField_eq (store : Store) (organization : Uuid) (model : DataModel) (payload : Payload)
    (path : List String) (name : String) :
    store.readField organization model payload path name =
      (if store.failingReads = 0 then
        (lookup store.rows organization model payload path name).mapError StorageError.model
      else .error .readFailed,
      { store with reads := store.reads + 1, failingReads := store.failingReads - 1 }) := by
  unfold readField
  by_cases none : store.failingReads = 0
  · simp only [if_pos none]
    rw [none]
    cases lookup store.rows organization model payload path name <;> rfl
  · simp only [if_neg none]

/-- A row of another organization is out of sight. -/
theorem rowsOf_insertRow {organization someone : Uuid} (isOther : someone ≠ organization)
    (store : Store) (place : String) (fields : Row) (table : String) :
    rowsOf (store.insertRow someone place fields).rows organization table =
      rowsOf store.rows organization table := by
  have isElsewhere : (someone == organization) = false := beq_eq_false_iff_ne.mpr isOther
  rw [rowsOf, rowsOf, insertRow, List.filter_append,
    List.filter_cons_of_neg (by simp [isElsewhere]), List.filter_nil, List.append_nil]

end Store

/-! ## Sessions -/

variable {organization : Uuid}

theorem Store.SameGrowth.refl (start otherStart : Store) :
    SameGrowth start otherStart start otherStart := by
  constructor <;> omega

/-- The counters move on by the same amounts. -/
theorem Store.SameGrowth.trans {start otherStart one other next otherNext : Store}
    (first : SameGrowth start otherStart one other)
    (second : SameGrowth one other next otherNext) :
    SameGrowth start otherStart next otherNext := by
  obtain ⟨reads, begun, opened, asked⟩ := first
  obtain ⟨readsLater, begunLater, openedLater, askedLater⟩ := second
  constructor <;> omega

theorem Store.Twins.start {one other : Store} (alike : AlikeFor organization one other) :
    Twins organization one other one other :=
  ⟨alike, .refl one other⟩

/-- An organization cannot tell the sessions apart: neither their stores, nor whether a transaction
is held. -/
structure Session.AlikeFor (organization : Uuid) (one other : Session) : Prop where
  store : Store.AlikeFor organization one.store other.store
  held : one.held = other.held

namespace Session.AlikeFor

variable {one other : Session}

theorem start {store otherStore : Store} (alike : Store.AlikeFor organization store otherStore) :
    Session.AlikeFor organization (.start store) (.start otherStore) :=
  ⟨alike, rfl⟩

theorem release (alike : Session.AlikeFor organization one other) :
    Store.AlikeFor organization one.release other.release := by
  unfold Session.release
  rw [← alike.held]
  split
  · exact ⟨alike.store.rows, alike.store.failingReads, alike.store.failingOpenings⟩
  · exact alike.store

/-- Both sessions get a transaction, or both are refused for the same reason. -/
theorem acquire (alike : Session.AlikeFor organization one other) :
    one.acquire.1 = other.acquire.1 ∧
      Session.AlikeFor organization one.acquire.2 other.acquire.2 ∧
      Store.SameGrowth one.store other.store one.acquire.2.store other.acquire.2.store := by
  obtain ⟨⟨rows, failingReads, failingOpenings⟩, isHeld⟩ := alike
  unfold Session.acquire
  rw [← isHeld]
  by_cases held : one.held = true
  · rw [if_pos held, if_pos held]
    exact ⟨rfl, ⟨⟨rows, failingReads, failingOpenings⟩, isHeld⟩, .refl _ _⟩
  · rw [if_neg held, if_neg held]
    unfold Store.openTransaction
    rw [← failingOpenings]
    by_cases opens : one.store.failingOpenings = 0
    · simp only [if_pos opens]
      refine ⟨trivial, ⟨⟨rows, failingReads, rfl⟩, rfl⟩, ?_⟩
      constructor <;> (dsimp only; omega)
    · simp only [if_neg opens]
      refine ⟨trivial, ⟨⟨rows, failingReads, rfl⟩, rfl⟩, ?_⟩
      constructor <;> (dsimp only; omega)

/-- A read of the rows has the same answer in both sessions. -/
theorem readField (alike : Session.AlikeFor organization one other) (model : DataModel)
    (payload : Payload) (path : List String) (name : String) :
    let read (session : Session) := session.store.readField organization model payload path name
    (read one).1 = (read other).1 ∧
      Session.AlikeFor organization { one with store := (read one).2 }
        { other with store := (read other).2 } ∧
      Store.SameGrowth one.store other.store (read one).2 (read other).2 := by
  obtain ⟨⟨rows, failingReads, failingOpenings⟩, isHeld⟩ := alike
  intro read
  simp only [read, Store.readField_eq, lookup_congr rows, failingReads]
  refine ⟨trivial, ⟨⟨rows, rfl, failingOpenings⟩, isHeld⟩, ?_⟩
  constructor <;> (dsimp only; omega)

/-- A read has the same answer in both sessions, and moves the counters by the same amounts. -/
theorem read {model : DataModel} {payload : Payload}
    (alike : Session.AlikeFor organization one other) (path : List String) (name : String) :
    let read (session : Session) := (Scope.mk organization model payload).read path name session
    (read one).1 = (read other).1 ∧
      Session.AlikeFor organization (read one).2 (read other).2 ∧
      Store.SameGrowth one.store other.store (read one).2.store (read other).2.store := by
  intro read
  have acquires := alike.acquire
  simp only [read, Scope.read]
  revert acquires
  rcases one.acquire with ⟨result, next⟩
  rcases other.acquire with ⟨otherResult, otherNext⟩
  rintro ⟨sameResult, acquired, growth⟩
  obtain rfl : result = otherResult := sameResult
  cases result with
  | error error => exact ⟨rfl, acquired, growth⟩
  | ok done =>
    have reads := acquired.readField model payload path name
    revert reads
    dsimp only
    rcases next.store.readField organization model payload path name with ⟨answer, store⟩
    rcases otherNext.store.readField organization model payload path name with
      ⟨otherAnswer, otherStore⟩
    rintro ⟨sameAnswer, after, later⟩
    obtain rfl : answer = otherAnswer := sameAnswer
    cases answer with
    | error error => exact ⟨rfl, after, growth.trans later⟩
    | ok value? => exact ⟨rfl, after, growth.trans later⟩

end Session.AlikeFor

/-! ## Sessions since a start -/

/-- The transaction that is held is counted as open. -/
def Session.Counted (session : Session) : Prop := session.held = true → 0 < session.store.opened

theorem Call.Lawful.counted {call : Call} (lawful : call.Lawful) (counted : call.before.Counted) :
    call.after.Counted := by
  intro held
  rw [lawful.held, Bool.or_eq_true] at held
  rw [lawful.opened]
  rcases held with heldBefore | opens
  · exact Nat.lt_of_lt_of_le (counted heldBefore) (Nat.le_add_right _ _)
  · rw [opens]
    exact Nat.succ_pos _

/-- Sessions that an organization cannot tell apart, whose counters have moved by the same amounts
since a start. -/
structure Session.Twins (organization : Uuid) (start otherStart : Store) (one other : Session) :
    Prop where
  alike : Session.AlikeFor organization one other
  growth : Store.SameGrowth start otherStart one.store other.store
  counted : one.Counted
  otherCounted : other.Counted

section

variable {origin otherOrigin : Store}

theorem Session.Twins.start {one other : Store}
    (twins : Store.Twins organization origin otherOrigin one other) :
    Session.Twins organization origin otherOrigin (.start one) (.start other) :=
  ⟨.start twins.alike, twins.growth, (nomatch ·), (nomatch ·)⟩

/-- Releasing keeps the stores twins. -/
theorem Session.Twins.release {one other : Session}
    (twins : Session.Twins organization origin otherOrigin one other) :
    Store.Twins organization origin otherOrigin one.release other.release := by
  refine ⟨twins.alike.release, ?_⟩
  unfold Session.release
  rw [← twins.alike.held]
  split
  · rename_i held
    have isCounted := twins.counted held
    have otherCounted := twins.otherCounted (twins.alike.held ▸ held)
    obtain ⟨reads, begun, opened, asked⟩ := twins.growth
    refine ⟨reads, begun, ?_, asked⟩
    show ((one.store.opened - 1 : Nat) : Int) - origin.opened =
      ((other.store.opened - 1 : Nat) : Int) - otherOrigin.opened
    omega
  · exact twins.growth

/-- The accessor of a scope keeps sessions twins. -/
theorem Scope.accessor_twins (model : DataModel) (payload : Payload) :
    (Scope.mk organization model payload).accessor.Agrees
      (Session.Twins organization origin otherOrigin)
      (Scope.mk organization model payload).accessor where
  payloadField name one other twins := ⟨rfl, twins⟩
  checkStored path name type one other twins := by
    rw [run_checkStored, run_checkStored]
    exact ⟨rfl, twins⟩
  storedField path name one other twins := by
    obtain ⟨sameAnswer, alike, growth⟩ := twins.alike.read path name
    let scope : Scope := ⟨organization, model, payload⟩
    exact ⟨sameAnswer, alike, twins.growth.trans growth,
      (scope.read_lawful path name one).counted twins.counted,
      (scope.read_lawful path name other).counted twins.otherCounted⟩

end

/-! ## Calls among others -/

/-- An organization cannot tell the calls apart: they ask for the same, fail in the same way, and
move the counters by the same amounts. -/
structure Call.AlikeFor (organization : Uuid) (one other : Call) : Prop where
  access : one.access = other.access
  failed : one.failed = other.failed
  before : Session.AlikeFor organization one.before other.before
  after : Session.AlikeFor organization one.after other.after
  growth : Store.SameGrowth one.before.store other.before.store one.after.store other.after.store

theorem Call.AlikeFor.opens_eq {one other : Call} (alike : one.AlikeFor organization other) :
    one.opens = other.opens := by
  have begun := alike.growth.begun
  rw [Call.opens, Call.opens, decide_eq_decide]
  omega

theorem any_opens_eq {calls otherCalls : List Call}
    (alike : List.Forall₂ (Call.AlikeFor organization) calls otherCalls) :
    calls.any Call.opens = otherCalls.any Call.opens := by
  induction alike with
  | nil => rfl
  | cons first _ ih => rw [List.any_cons, List.any_cons, first.opens_eq, ih]

theorem countP_opens_eq {accessors otherAccessors : List (List Call)}
    (alike : List.Forall₂ (List.Forall₂ (Call.AlikeFor organization)) accessors otherAccessors) :
    (accessors.countP fun calls => calls.any Call.opens) =
      otherAccessors.countP fun calls => calls.any Call.opens := by
  induction alike with
  | nil => rfl
  | cons first _ ih => rw [List.countP_cons, List.countP_cons, any_opens_eq first, ih]

/-- Sessions that an organization cannot tell apart, after calls that it cannot tell apart. -/
def SharedAlike (organization : Uuid) (one other : Session × List Call) : Prop :=
  Session.AlikeFor organization one.1 other.1 ∧
    List.Forall₂ (Call.AlikeFor organization) one.2 other.2

end Ingest

open Ingest

/-- What others do in two places leaves what an organization sees alike. -/
def Others.AlikeFor (organization : Uuid) (others otherOthers : Others) : Prop :=
  ∀ count one other, Store.AlikeFor organization one other →
    Store.AlikeFor organization (others count one) (otherOthers count other)

namespace Ingest

variable {α : Type} {organization : Uuid} {others otherOthers : Others}

/-- Calls that agree on sessions that are alike are alike. -/
theorem Call.make_alike (alike : others.AlikeFor organization otherOthers) (access : Access)
    (fails : α → Bool) {call : StateM Session α}
    (agrees : ∀ one other, Session.AlikeFor organization one other →
      (call.run one).1 = (call.run other).1 ∧
        Session.AlikeFor organization (call.run one).2 (call.run other).2 ∧
        Store.SameGrowth one.store other.store (call.run one).2.store (call.run other).2.store) :
    Agree (SharedAlike organization) Eq (Call.make others access fails call)
      (Call.make otherOthers access fails call) := by
  rintro ⟨one, calls⟩ ⟨other, otherCalls⟩ ⟨isAlike, callsAlike⟩
  have acted : Session.AlikeFor organization (one.meanwhile (others calls.length))
      (other.meanwhile (otherOthers calls.length)) :=
    ⟨alike calls.length one.store other.store isAlike.store, isAlike.held⟩
  obtain ⟨sameAnswer, after, growth⟩ := agrees _ _ acted
  have sameLength : otherCalls.length = calls.length := callsAlike.length_eq.symm
  unfold Call.make
  simp only [StateT.run, sameLength]
  refine ⟨sameAnswer, after, List.rel_append callsAlike (.cons ?_ .nil)⟩
  exact ⟨rfl, congrArg fails sameAnswer, acted, after, growth⟩

/-- An accessor that is shared makes calls that are alike. -/
theorem Scope.shared_alike (alike : others.AlikeFor organization otherOthers) (model : DataModel)
    (payload : Payload) :
    let scope : Scope := ⟨organization, model, payload⟩
    (scope.accessor.shared others).Agrees (SharedAlike organization)
      (scope.accessor.shared otherOthers) where
  payloadField name := Call.make_alike alike (.payload name) _ fun _ _ isAlike =>
    ⟨rfl, isAlike, .refl _ _⟩
  checkStored path name type := by
    let scope : Scope := ⟨organization, model, payload⟩
    let checked (session : Session) := (scope.accessor.checkStored path name type).run.run session
    have still (session : Session) : checked session = (scope.check path name type, session) :=
      scope.run_checkStored path name type session
    refine Call.make_alike alike (.check path name type)
      (fun answer : Except EvaluationError Unit => !answer.isOk) fun one other isAlike => ?_
    change (checked one).1 = (checked other).1 ∧
      Session.AlikeFor organization (checked one).2 (checked other).2 ∧
      Store.SameGrowth one.store other.store (checked one).2.store (checked other).2.store
    rw [still, still]
    exact ⟨rfl, isAlike, .refl _ _⟩
  storedField path name :=
    Call.make_alike alike (.stored path name)
      (fun answer : Except EvaluationError (Option Value) => !answer.isOk)
      fun _ _ isAlike => isAlike.read path name

end Ingest

end RiskScoring

import RiskScoring.Ingest.Accessor
import RiskScoring.Proofs.Evaluation.Soundness
import RiskScoring.Proofs.Ingest.Walk
import RiskScoring.Proofs.Scenario.Validation

/-!
# Validated formulas on ingested rows

A formula of an iteration that is valid against a data model is evaluated on a payload and rows that
were read by the tables of that model. Then evaluation can only fail because a nullable field is
absent, because a divisor is zero, or because a read was made to fail.

* `Ingest.Session.Quiet`, `Ingest.Session.Spends`: what a read does to the store.
* `Ingest.Scope.read_cases`: a read of a field that the model resolves.
* `Ingest.Scope.fetch_cases_of_fits`: a fetch of a read that fits.
* `Iteration.evaluation_of_valid`: the statement for whole formulas.
-/

namespace RiskScoring

namespace Ingest

/-- How many failures are still to come. -/
def Store.failures (store : Store) : Nat := store.failingReads + store.failingOpenings

namespace Session

/-- The rows are the same, and no failure has come. -/
structure Quiet (before after : Session) : Prop where
  rows : after.store.rows = before.store.rows
  failures : after.store.failures = before.store.failures

/-- The rows are the same, and one failure has come. -/
structure Spends (before after : Session) : Prop where
  rows : after.store.rows = before.store.rows
  failures : after.store.failures + 1 = before.store.failures

variable {x y z : Session}

theorem Quiet.trans (first : x.Quiet y) (second : y.Quiet z) : x.Quiet z :=
  ⟨second.rows.trans first.rows, second.failures.trans first.failures⟩

theorem Quiet.spends (first : x.Quiet y) (second : y.Spends z) : x.Spends z :=
  ⟨second.rows.trans first.rows, second.failures.trans first.failures⟩

/-- A transaction is there afterwards, or an opening was made to fail. -/
theorem acquire_cases (session : Session) :
    (∃ next, session.acquire = (.ok (), next) ∧ session.Quiet next) ∨
      ∃ error next, session.acquire = (.error error, next) ∧ session.Spends next := by
  unfold acquire
  by_cases held : session.held = true
  · rw [if_pos held]
    exact Or.inl ⟨session, rfl, rfl, rfl⟩
  · rw [if_neg held]
    unfold Store.openTransaction
    by_cases opens : session.store.failingOpenings = 0
    · simp only [if_pos opens]
      exact Or.inl ⟨_, rfl, rfl, rfl⟩
    · simp only [if_neg opens]
      refine Or.inr ⟨_, _, rfl, rfl, ?_⟩
      show session.store.failingReads + (session.store.failingOpenings - 1) + 1 =
        session.store.failingReads + session.store.failingOpenings
      omega

end Session

namespace Scope

variable {scope : Scope} {session : Session}

/-- A read that the rows have an answer for gives it, or it was made to fail. -/
theorem read_cases {path : List String} {name : String} {value? : Option Value}
    (answer : lookup session.store.rows scope.organization scope.model scope.payload path name =
      .ok value?) :
    (∃ after, scope.read path name session = (.ok value?, after) ∧ session.Quiet after) ∨
      ∃ cause after, scope.read path name session = (.error (.readFailed cause), after) ∧
        session.Spends after := by
  unfold read
  rcases session.acquire_cases with ⟨next, acquired, quiet⟩ | ⟨error, next, acquired, spends⟩
  · rw [acquired]
    have sameAnswer : lookup next.store.rows scope.organization scope.model scope.payload path
        name = .ok value? := by
      rw [quiet.rows, answer]
    simp only [Store.readField]
    by_cases reads : next.store.failingReads = 0
    · simp only [if_pos reads, sameAnswer]
      exact Or.inl ⟨_, rfl, quiet.trans ⟨rfl, rfl⟩⟩
    · simp only [if_neg reads]
      refine Or.inr ⟨_, _, rfl, quiet.spends ⟨rfl, ?_⟩⟩
      show next.store.failingReads - 1 + next.store.failingOpenings + 1 =
        next.store.failingReads + next.store.failingOpenings
      omega
  · rw [acquired]
    exact Or.inr ⟨error, next, rfl, spends⟩

end Scope

end Ingest

/-- An answer of the declared type passes, and a missing one does not. -/
theorem FieldRead.trace_of_type {read : FieldRead} {value? : Option Value}
    (typed : ∀ value, value? = some value → value.type = read.type.valueType) :
    (∃ trace, read.trace value? = .ok trace) ∨
      value? = none ∧ read.trace value? = .error (.fieldMissing read.source) := by
  cases traced : read.trace value? with
  | ok trace => exact Or.inl ⟨trace, rfl⟩
  | error error =>
    rcases FieldRead.trace_error traced with ⟨absent, rfl⟩ | ⟨found, present, mismatch, -⟩
    · exact Or.inr ⟨absent, rfl⟩
    · exact absurd (typed found present) mismatch

namespace Ingest.Scope

variable {scope : Scope} {table : Table} {raw : Json}

/-- How the fetch of a read may end: with a trace, without a value, or with a failure that was to
come. -/
inductive Fetched (table : Table) (read : FieldRead) (session : Session) :
    Except EvaluationError Trace × Session → Prop
  | found {trace : Trace} {after : Session} (quiet : session.Quiet after) :
    Fetched table read session (.ok trace, after)
  | missing {after : Session} (quiet : session.Quiet after)
    (nullable : ∀ type name, read = .payload type name →
      ∃ field, table.fields.get? name = some field ∧ field.nullable = true) :
    Fetched table read session (.error (.fieldMissing read.source), after)
  | failed {cause : StorageError} {after : Session} (spends : session.Spends after) :
    Fetched table read session (.error (.readFailed cause), after)

/-- A field of the payload that is read as it is declared. -/
theorem fetch_payload_of_fits (found : scope.model.table scope.payload.table = .ok table)
    (parsed : Payload.ofJson table raw = .ok scope.payload) {type : FieldType} {name : String}
    (fits : (FieldRead.payload type name).Fits scope.model scope.payload.table)
    (session : Session) :
    Fetched table (.payload type name) session
      ((scope.accessor.fetch (.payload type name)).runFrom session) := by
  obtain ⟨field, resolves, accepted⟩ := fits
  have declared : table.fields.get? name = some field := by
    simp only [FieldRead.resolve, found, bind, Except.bind, Table.field] at resolves
    split at resolves
    · rename_i stored present
      cases resolves
      exact present
    · cases resolves
  rw [Accessor.fetch_payload]
  show Fetched table _ session
    ((FieldRead.payload type name).trace (scope.payload.get? name), session)
  have typed : ∀ value, scope.payload.get? name = some value →
      value.type = (FieldRead.payload type name).type.valueType := by
    intro value present
    obtain ⟨same, declaredSame, hasType⟩ := Payload.ofJson_holds parsed present
    rw [declared] at declaredSame
    cases declaredSame
    rw [hasType]
    exact DataType.accepts_iff.mp accepted
  rcases FieldRead.trace_of_type typed with ⟨trace, traced⟩ | ⟨absent, traced⟩
  · rw [traced]
    exact .found ⟨rfl, rfl⟩
  · rw [traced]
    refine .missing ⟨rfl, rfl⟩ ?_
    rintro _ _ ⟨⟩
    exact ⟨field, declared, Payload.nullable_of_absent parsed declared absent⟩

/-- A stored field that is read as it is declared. -/
theorem fetch_stored_of_fits (found : scope.model.table scope.payload.table = .ok table)
    (parsed : Payload.ofJson table raw = .ok scope.payload) {session : Session}
    (typed : Typed session.store.rows scope.organization scope.model) {type : FieldType}
    {path : List String} {name : String}
    (fits : (FieldRead.stored type path name).Fits scope.model scope.payload.table) :
    Fetched table (.stored type path name) session
      ((scope.accessor.fetch (.stored type path name)).runFrom session) := by
  obtain ⟨field, resolves, accepted⟩ := fits
  change scope.model.resolve scope.payload.table path name = .ok field at resolves
  have checks : (scope.accessor.checkStored path name type).runFrom session =
      (.ok (), session) := by
    have passes : scope.check path name type = .ok () := by
      simp only [check, resolves]
      exact if_pos accepted
    show Reading.runFrom (liftExcept (scope.check path name type)) session = (.ok (), session)
    rw [Reading.runFrom_liftExcept, passes]
  obtain ⟨value?, answer, hasType⟩ :=
    lookup_of_resolve typed found (Payload.ofJson_holds parsed) resolves
  rcases read_cases answer with ⟨after, reads, quiet⟩ | ⟨cause, after, reads, spends⟩
  · rw [Accessor.fetch_of_answer checks reads]
    have typedAnswer : ∀ value, value? = some value →
        value.type = (FieldRead.stored type path name).type.valueType := by
      intro value present
      rw [hasType value present]
      exact DataType.accepts_iff.mp accepted
    rcases FieldRead.trace_of_type typedAnswer with ⟨trace, traced⟩ | ⟨absent, traced⟩
    · rw [traced]
      exact .found quiet
    · rw [traced]
      exact .missing quiet (fun _ _ isPayload => nomatch isPayload)
  · rw [Accessor.fetch_of_refuses (.field checks reads)]
    exact .failed spends

theorem fetch_cases_of_fits (found : scope.model.table scope.payload.table = .ok table)
    (parsed : Payload.ofJson table raw = .ok scope.payload) {session : Session}
    (typed : Typed session.store.rows scope.organization scope.model) {read : FieldRead}
    (fits : read.Fits scope.model scope.payload.table) :
    Fetched table read session ((scope.accessor.fetch read).runFrom session) := by
  cases read with
  | payload type name => exact fetch_payload_of_fits found parsed fits session
  | stored type path name => exact fetch_stored_of_fits found parsed typed fits

/-- Fetches that succeed leave the rows and the failures as they are. -/
theorem quiet_of_trail (found : scope.model.table scope.payload.table = .ok table)
    (parsed : Payload.ofJson table raw = .ok scope.payload) {reads : List FieldRead}
    (fits : ∀ read ∈ reads, read.Fits scope.model scope.payload.table) {before after : Session}
    (trail : scope.accessor.Trail reads before after)
    (typed : Typed before.store.rows scope.organization scope.model) : before.Quiet after := by
  induction trail with
  | stay session => exact ⟨rfl, rfl⟩
  | step occurs fetches _ ih =>
    have ended := fetch_cases_of_fits found parsed typed (fits _ occurs)
    rw [fetches] at ended
    cases ended with
    | found quiet => exact quiet.trans (ih (by rw [quiet.rows]; exact typed))

end Ingest.Scope

/-- Every formula of a valid iteration, evaluated on a payload and on rows that were read by their
tables, gives a truth value, unless a field is missing, a divisor is zero, or a read was made to
fail. Only a nullable field of the payload can be missing, and a read fails only if that was to
come. -/
theorem Iteration.evaluation_of_valid {model : DataModel} {trigger : String} {table : Table}
    {iteration : Iteration} {organization : Uuid} {raw : Json} {payload : Payload}
    {session after : Ingest.Session} {formula : Expression} {result : Except EvaluationError Bool}
    (found : model.table trigger = .ok table) (ownName : table.name = trigger)
    (valid : (iteration.validateAgainst model trigger).isValid = true)
    (parsed : Payload.ofJson table raw = .ok payload)
    (loaded : session.store.Loaded organization model) (occurs : iteration.HasFormula formula)
    (evaluates : (formula.evaluateBool
      (Ingest.Scope.mk organization model payload).accessor).runFrom session = (result, after)) :
    (∃ value, result = .ok value) ∧ after.store.failures = session.store.failures ∨
    (∃ read ∈ formula.reads, result = .error (.fieldMissing read.source) ∧
      after.store.failures = session.store.failures ∧
      ∀ type name, read = .payload type name →
        ∃ field, table.fields.get? name = some field ∧ field.nullable = true) ∨
    result = .error (.divisionByZero BinaryOp.divide.name) ∧
      after.store.failures = session.store.failures ∨
    ∃ cause, result = .error (.readFailed cause) ∧
      after.store.failures + 1 = session.store.failures := by
  obtain ⟨isTree, isBool, fits⟩ := Iteration.formula_of_valid valid occurs
  obtain rfl : payload.table = trigger := (Payload.ofJson_eq_ok parsed).1.trans ownName
  let scope : Ingest.Scope := ⟨organization, model, payload⟩
  have sound : (formula.evaluateBool scope.accessor).Sound scope.accessor formula.reads
      (fun _ => True) := Expression.evaluateBool_sound isTree isBool
  have ends := sound session
  rw [evaluates] at ends
  cases ends with
  | @value value _ trail _ =>
    have quiet := Ingest.Scope.quiet_of_trail found parsed fits trail loaded.typed
    exact Or.inl ⟨⟨value, rfl⟩, quiet.failures⟩
  | divided trail =>
    have quiet := Ingest.Scope.quiet_of_trail found parsed fits trail loaded.typed
    exact Or.inr (Or.inr (Or.inl ⟨rfl, quiet.failures⟩))
  | @failed read error before _ trail occurs fails =>
    have quiet := Ingest.Scope.quiet_of_trail found parsed fits trail loaded.typed
    have typed : Ingest.Typed before.store.rows organization model := by
      rw [quiet.rows]
      exact loaded.typed
    have fetched : Ingest.Scope.Fetched table read before
        ((scope.accessor.fetch read).runFrom before) :=
      Ingest.Scope.fetch_cases_of_fits found parsed typed (fits read occurs)
    rw [fails] at fetched
    cases fetched with
    | missing later nullable =>
      exact Or.inr (Or.inl ⟨read, occurs, rfl, (quiet.trans later).failures, nullable⟩)
    | @failed cause _ spends =>
      exact Or.inr (Or.inr (Or.inr ⟨cause, rfl, (quiet.spends spends).failures⟩))

namespace Shop

/-- Customers, who are verified or not. -/
def customers : Table :=
  ((Table.named "customers").withField "id" ⟨.string, false⟩).withField "verified" ⟨.bool, false⟩

/-- Orders, each with a link to its customer. -/
def orders : Table :=
  (((Table.named "orders").withField "known" ⟨.bool, true⟩).withField "customer"
    ⟨.string, false⟩).withLink "customer" ⟨"customers", "id", "customer"⟩

def model : DataModel := .ofTables [customers, orders]

/-- An order. -/
def order : Payload :=
  ⟨"orders", .ofList [("known", .bool true), ("customer", .string "c1")],
    .object [("known", .bool true), ("customer", .string "c1")]⟩

/-- The customer of the order. -/
def customer : Payload :=
  ⟨"customers", .ofList [("id", .string "c1"), ("verified", .bool true)],
    .object [("id", .string "c1"), ("verified", .bool true)]⟩

/-- An iteration that asks for known addresses and verified customers. -/
def iteration : Iteration :=
  ⟨⟨1⟩, ⟨2⟩, 1, .variadic .and
    [some (.payload .bool "known"), some (.stored .bool ["customer"] "verified")],
    [], 1, 2, .draft, ⟨0, 0⟩, ⟨0, 0⟩⟩

/-- The customer is stored, and one read is to fail. -/
def session : Ingest.Session :=
  .start ((Ingest.Store.empty.insertRow ⟨3⟩ "customers" customer.fields).failReads 1)

/-- The customer was read by the table of customers. -/
theorem session_loaded : session.store.Loaded ⟨3⟩ model := by
  intro row listed _ table found
  obtain rfl := List.mem_singleton.mp listed
  have isCustomers : model.table "customers" = .ok customers := by rfl
  rw [isCustomers] at found
  cases found
  exact ⟨customer.raw, customer, rfl, rfl⟩

/-- The trigger condition of the order fails with the read that was to fail. -/
theorem evaluation_of_valid_order :
    ∃ after, (iteration.trigger.evaluateBool (Ingest.Scope.mk ⟨3⟩ model order).accessor).runFrom
      session = (.error (.readFailed .readFailed), after) ∧
        after.store.failures + 1 = session.store.failures := by
  refine ⟨_, rfl, ?_⟩
  have found : model.table "orders" = .ok orders := by rfl
  have isValid : (iteration.validateAgainst model "orders").isValid = true := by decide +kernel
  have parsed : Payload.ofJson orders order.raw = .ok order := by rfl
  rcases Iteration.evaluation_of_valid found rfl isValid parsed session_loaded (Or.inl rfl) rfl with
    ⟨⟨_, returns⟩, -⟩ | ⟨_, -, missing, -⟩ | ⟨divides, -⟩ | ⟨_, -, spends⟩
  · cases returns
  · cases missing
  · cases divides
  · exact spends

end Shop

end RiskScoring

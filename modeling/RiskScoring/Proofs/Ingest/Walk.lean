import RiskScoring.Ingest.Store
import RiskScoring.Proofs.Ingest.Payload

/-!
# The storage walks as the data model says

* `Ingest.Store.Loaded`: every row of an organization was read by the table that it is kept for.
* `Ingest.joinPath_of_walk`: where the model follows a path, the walk through the rows does not
  fail, and the row that it ends at is one of the table that the model ends at.
* `Ingest.lookup_isOk_of_resolve`: so a field that the model resolves is found or absent, whatever
  the rows are.
* `Ingest.lookup_of_resolve`: if the rows are typed, it is found with a value of its type.
-/

namespace RiskScoring

namespace Ingest

/-- Every row of the organization was read by the table that the model has for it. -/
def Store.Loaded (store : Store) (organization : Uuid) (model : DataModel) : Prop :=
  ∀ row ∈ store.rows, row.organization = organization → ∀ table,
    model.table row.table = .ok table →
      ∃ raw payload, Payload.ofJson table raw = .ok payload ∧ row.fields = payload.fields

/-- Every row of the organization is held by the table that the model has for it. -/
def Typed (rows : List StoredRow) (organization : Uuid) (model : DataModel) : Prop :=
  ∀ row ∈ rows, row.organization = organization → ∀ table,
    model.table row.table = .ok table → table.Holds row.fields

theorem Store.Loaded.typed {store : Store} {organization : Uuid} {model : DataModel}
    (loaded : store.Loaded organization model) : Typed store.rows organization model := by
  intro row listed owner table found
  obtain ⟨raw, payload, parsed, fields⟩ := loaded row listed owner table found
  rw [fields]
  exact Payload.ofJson_holds parsed

variable {rows : List StoredRow} {organization : Uuid} {model : DataModel}

/-- A row that is found is one of the organization and the table. -/
theorem findRow_spec {table field : String} {key : Value} {row : Row}
    (found : findRow rows organization table field key = some row) :
    ∃ stored ∈ rows, stored.organization = organization ∧ stored.table = table ∧
      stored.fields = row := by
  unfold findRow at found
  obtain ⟨stored, first, rfl⟩ := Option.map_eq_some_iff.mp found
  have matched := List.find?_some first
  simp only [Bool.and_eq_true, beq_iff_eq] at matched
  exact ⟨stored, List.mem_of_find?_eq_some first, matched.1.1, matched.1.2, rfl⟩

/-- Every row that a link can lead to is good for the linked table. -/
def Links (rows : List StoredRow) (organization : Uuid) (model : DataModel)
    (good : Table → Row → Prop) : Prop :=
  ∀ (link : Link) (key : Value) (row : Row) (next : Table), model.table link.table = .ok next →
    findRow rows organization link.table link.parentField key = some row → good next row

/-- The walk through the rows stays on the tables that the model walks through. What is true of the
first row and its table, and of every row that a link can lead to, is true of the last one. -/
theorem joinPath_of_walk {good : Table → Row → Prop}
    (links : Links rows organization model good) {path : List String} {table last : Table}
    {row : Row} (isGood : good table row) (walks : model.walk table path = .ok last) :
    ∃ row?, joinPath rows organization model table row path = .ok row? ∧
      ∀ final, row? = some final → good last final := by
  induction path generalizing table row with
  | nil =>
    cases walks
    refine ⟨some row, rfl, ?_⟩
    rintro final ⟨⟩
    exact isGood
  | cons name rest ih =>
    rw [DataModel.walk] at walks
    rw [joinPath]
    cases linked : table.link name with
    | error error =>
      rw [linked] at walks
      cases walks
    | ok link =>
      cases reached : model.table link.table with
      | error error =>
        simp only [linked, reached, bind, Except.bind] at walks
        cases walks
      | ok next =>
        simp only [linked, reached, bind, Except.bind] at walks ⊢
        cases row.get? link.childField with
        | none => exact ⟨none, rfl, fun _ absent => nomatch absent⟩
        | some key =>
          dsimp only
          cases joined : findRow rows organization link.table link.parentField key with
          | none => exact ⟨none, rfl, fun _ absent => nomatch absent⟩
          | some row' => exact ih (links link key row' next reached joined) walks

/-- The storage finds the row, if there is one, of a field that the model resolves. -/
theorem lookup_of_links {good : Table → Row → Prop}
    (links : Links rows organization model good) {payload : Payload} {path : List String}
    {name : String} {field : Field}
    (start : ∀ table, model.table payload.table = .ok table → good table payload.fields)
    (resolves : model.resolve payload.table path name = .ok field) :
    ∃ last row?, last.field name = .ok field ∧
      lookup rows organization model payload path name =
        .ok (row?.bind fun row => row.get? name) ∧
      ∀ final, row? = some final → good last final := by
  obtain ⟨last, follows, declared⟩ : ∃ last, model.follow payload.table path = .ok last ∧
      last.field name = .ok field := by
    rw [DataModel.resolve] at resolves
    cases follows : model.follow payload.table path with
    | error error =>
      rw [follows] at resolves
      cases resolves
    | ok last =>
      rw [follows] at resolves
      exact ⟨last, rfl, resolves⟩
  unfold DataModel.follow at follows
  split at follows
  · cases follows
  · cases found : model.table payload.table with
    | error error =>
      rw [found] at follows
      cases follows
    | ok table =>
      rw [found] at follows
      obtain ⟨row?, joined, isGood⟩ := joinPath_of_walk links (start table found) follows
      refine ⟨last, row?, declared, ?_, isGood⟩
      rw [lookup, found]
      simp only [bind, Except.bind, joined]
      rfl

/-- A read that the model resolves never contradicts the model inside of the storage. -/
theorem lookup_isOk_of_resolve {payload : Payload} {path : List String} {name : String}
    {field : Field} (resolves : model.resolve payload.table path name = .ok field) :
    ∃ value?, lookup rows organization model payload path name = .ok value? := by
  have links : Links rows organization model fun _ _ => True := fun _ _ _ _ _ _ => trivial
  obtain ⟨_, row?, -, finds, -⟩ := lookup_of_links links (fun _ _ => trivial) resolves
  exact ⟨_, finds⟩

/-- A field that the model resolves has a value of its type, or none. -/
theorem lookup_of_resolve (typed : Typed rows organization model) {payload : Payload}
    {table : Table} {path : List String} {name : String} {field : Field}
    (found : model.table payload.table = .ok table) (holds : table.Holds payload.fields)
    (resolves : model.resolve payload.table path name = .ok field) :
    ∃ value?, lookup rows organization model payload path name = .ok value? ∧
      ∀ value, value? = some value → value.type = field.dataType.valueType := by
  have links : Links rows organization model Table.Holds := by
    intro link key row next reached joined
    obtain ⟨stored, listed, owner, isTable, rfl⟩ := findRow_spec joined
    exact typed stored listed owner next (by rw [isTable, reached])
  have start : ∀ first, model.table payload.table = .ok first → first.Holds payload.fields := by
    intro first isFirst
    rw [found] at isFirst
    cases isFirst
    exact holds
  obtain ⟨last, row?, declared, finds, holdsLast⟩ := lookup_of_links links start resolves
  refine ⟨_, finds, fun value present => ?_⟩
  obtain ⟨row, isRow, hasValue⟩ := Option.bind_eq_some_iff.mp present
  obtain ⟨field', foundField, type⟩ := holdsLast row isRow hasValue
  rw [Table.field, foundField] at declared
  cases declared
  exact type

end Ingest

end RiskScoring

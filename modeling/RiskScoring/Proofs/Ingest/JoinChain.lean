import RiskScoring.Proofs.Ingest.Tenants
import RiskScoring.Proofs.Scenario.Exactness

/-!
# Reads as chains of first matches

A read of a stored field goes from the payload to one row for each link. Of the rows that a link can
lead to it takes the one that was inserted first. So rows that are inserted later are out of its
reach, once each link has found one.

* `Ingest.StoredRow.Matches`, `Ingest.Earliest`: the rows that a key leads to, and the first of
  them.
* `Ingest.Chain`, `Ingest.Breaks`: the rows of a read, one for each link, and where there are no
  more.
* `Ingest.joinPath_eq_some`, `Ingest.joinPath_eq_none`: the walk through the rows, by them.
* `Ingest.Chain.append`: rows that are inserted later do not matter to a chain.
* `Ingest.Scope.read_first_matches`: the statement for every read that the data model allows.
-/

namespace RiskScoring

namespace Ingest

/-! ## Rows -/

/-- A key of a link leads to the row: it is one of the organization and the linked table, and the
value of its parent field equals the key. -/
structure StoredRow.Matches (organization : Uuid) (link : Link) (key : Value) (stored : StoredRow) :
    Prop where
  organization : stored.organization = organization
  table : stored.table = link.table
  field : ∃ value, stored.fields.get? link.parentField = some value ∧ value.equals key = true

/-- Of the rows that the key leads to, this one was inserted first. -/
def Earliest (rows : List StoredRow) (organization : Uuid) (link : Link) (key : Value) (row : Row) :
    Prop :=
  ∃ before stored after, rows = before ++ stored :: after ∧ stored.fields = row ∧
    stored.Matches organization link key ∧
    ∀ earlier ∈ before, ¬ earlier.Matches organization link key

/-- The rows of a read: from a row of a table there is one for each link, the first one that the key
of the link leads to. The key is read from the row before, by the link that the table of that row
declares. -/
inductive Chain (rows : List StoredRow) (organization : Uuid) (model : DataModel) :
    Table → Row → List String → Table → Row → Prop
  | stay (table : Table) (row : Row) : Chain rows organization model table row [] table row
  | join {table next last : Table} {row linked final : Row} {name : String} {rest : List String}
    {link : Link} {key : Value} (declared : table.links.get? name = some link)
    (present : row.get? link.childField = some key)
    (first : Earliest rows organization link key linked)
    (found : model.tables.get? link.table = some next)
    (chain : Chain rows organization model next linked rest last final) :
    Chain rows organization model table row (name :: rest) last final

/-- The rows of a read end early: there is a chain up to some link whose key is absent, or leads to
no row. -/
def Breaks (rows : List StoredRow) (organization : Uuid) (model : DataModel) (table : Table)
    (row : Row) (path : List String) : Prop :=
  ∃ taken name rest here reached link, path = taken ++ name :: rest ∧
    Chain rows organization model table row taken here reached ∧
    here.links.get? name = some link ∧
    (reached.get? link.childField = none ∨
      ∃ key, reached.get? link.childField = some key ∧
        ∀ stored ∈ rows, ¬ stored.Matches organization link key)

section

variable {rows : List StoredRow} {organization : Uuid} {model : DataModel}

/-- The test of `findRow`. -/
theorem StoredRow.matches_iff {link : Link} {key : Value} {stored : StoredRow} :
    (stored.organization == organization && stored.table == link.table &&
      (match stored.fields.get? link.parentField with
        | some value => value.equals key
        | none => false)) = true ↔ stored.Matches organization link key := by
  rw [Bool.and_eq_true, Bool.and_eq_true, beq_iff_eq, beq_iff_eq]
  constructor
  · intro passes
    obtain ⟨⟨owner, isTable⟩, equal⟩ := passes
    split at equal
    · rename_i value present
      exact ⟨owner, isTable, value, present, equal⟩
    · cases equal
  · intro isMatch
    obtain ⟨owner, isTable, value, present, equal⟩ := isMatch
    refine ⟨⟨owner, isTable⟩, ?_⟩
    rw [present]
    exact equal

instance {link : Link} {key : Value} {stored : StoredRow} :
    Decidable (stored.Matches organization link key) :=
  decidable_of_iff _ StoredRow.matches_iff

theorem findRow_eq (link : Link) (key : Value) :
    findRow rows organization link.table link.parentField key =
      (rows.find? fun stored => decide (stored.Matches organization link key)).map
        StoredRow.fields := by
  refine congrArg (fun test => (rows.find? test).map StoredRow.fields) (funext fun stored => ?_)
  rw [Bool.eq_iff_iff, decide_eq_true_iff]
  exact StoredRow.matches_iff

theorem findRow_eq_some {link : Link} {key : Value} {row : Row} :
    findRow rows organization link.table link.parentField key = some row ↔
      Earliest rows organization link key row := by
  simp only [findRow_eq, Option.map_eq_some_iff, List.find?_eq_some_iff_append, decide_eq_true_iff,
    Bool.not_eq_true', decide_eq_false_iff_not]
  constructor
  · intro finds
    obtain ⟨stored, ⟨isMatch, before, after, split, others⟩, fields⟩ := finds
    exact ⟨before, stored, after, split, fields, isMatch, others⟩
  · intro first
    obtain ⟨before, stored, after, split, fields, isMatch, others⟩ := first
    exact ⟨stored, ⟨isMatch, before, after, split, others⟩, fields⟩

theorem findRow_eq_none {link : Link} {key : Value} :
    findRow rows organization link.table link.parentField key = none ↔
      ∀ stored ∈ rows, ¬ stored.Matches organization link key := by
  simp only [findRow_eq, Option.map_eq_none_iff, List.find?_eq_none, decide_eq_true_iff]

/-- Rows that are inserted later come after the first match. -/
theorem Earliest.append {link : Link} {key : Value} {row : Row}
    (first : Earliest rows organization link key row) (more : List StoredRow) :
    Earliest (rows ++ more) organization link key row := by
  obtain ⟨before, stored, after, split, fields, isMatch, others⟩ := first
  refine ⟨before, stored, after ++ more, ?_, fields, isMatch, others⟩
  rw [split, List.append_assoc, List.cons_append]

/-! ## Chains -/

theorem Chain.append {table last : Table} {row final : Row} {path : List String}
    (chain : Chain rows organization model table row path last final) (more : List StoredRow) :
    Chain (rows ++ more) organization model table row path last final := by
  induction chain with
  | stay table row => exact .stay table row
  | join declared present first found _ ih =>
    exact .join declared present (first.append more) found ih

/-- A chain that breaks breaks from any link further to the front, too. -/
theorem Breaks.join {table next : Table} {row linked : Row} {name : String} {rest : List String}
    {link : Link} {key : Value} (declared : table.links.get? name = some link)
    (present : row.get? link.childField = some key)
    (first : Earliest rows organization link key linked)
    (found : model.tables.get? link.table = some next)
    (breaks : Breaks rows organization model next linked rest) :
    Breaks rows organization model table row (name :: rest) := by
  obtain ⟨taken, missing, later, here, reached, broken, split, chain, isBroken, absent⟩ := breaks
  refine ⟨name :: taken, missing, later, here, reached, broken, ?_,
    .join declared present first found chain, isBroken, absent⟩
  rw [split, List.cons_append]

/-- A walk through the rows goes on from the first match, or it ends early. -/
theorem joinPath_cons {table : Table} {row : Row} {name : String} {rest : List String}
    {row? : Option Row} :
    joinPath rows organization model table row (name :: rest) = .ok row? ↔
      ∃ link, table.links.get? name = some link ∧
        ((row.get? link.childField = none ∧ row? = none) ∨
          ∃ key, row.get? link.childField = some key ∧
            (((∀ stored ∈ rows, ¬ stored.Matches organization link key) ∧ row? = none) ∨
              ∃ linked next, Earliest rows organization link key linked ∧
                model.tables.get? link.table = some next ∧
                joinPath rows organization model next linked rest = .ok row?)) := by
  rw [joinPath]
  refine Except.bind_eq_ok_iff.trans (exists_congr fun link => and_congr Table.link_eq_ok ?_)
  cases row.get? link.childField with
  | none => simp [pure, Except.pure, eq_comm]
  | some key =>
    simp only [reduceCtorEq, false_and, false_or, Option.some.injEq, exists_eq_left',
      ← findRow_eq_none, ← findRow_eq_some, ← DataModel.table_eq_ok]
    cases findRow rows organization link.table link.parentField key with
    | none => simp [pure, Except.pure, eq_comm]
    | some linked =>
      simp only [reduceCtorEq, false_and, false_or, Option.some.injEq, exists_and_left,
        exists_eq_left']
      exact Except.bind_eq_ok_iff

theorem joinPath_eq_some {table : Table} {row final : Row} {path : List String} :
    joinPath rows organization model table row path = .ok (some final) ↔
      ∃ last, Chain rows organization model table row path last final := by
  constructor
  · intro walks
    induction path generalizing table row with
    | nil =>
      cases walks
      exact ⟨table, .stay table _⟩
    | cons name rest ih =>
      obtain ⟨link, declared, ⟨-, isNone⟩ | ⟨key, present, ⟨-, isNone⟩ | joins⟩⟩ :=
        joinPath_cons.mp walks
      · cases isNone
      · cases isNone
      · obtain ⟨linked, next, first, found, walks⟩ := joins
        obtain ⟨last, chain⟩ := ih walks
        exact ⟨last, .join declared present first found chain⟩
  · intro ends
    obtain ⟨last, chain⟩ := ends
    induction chain with
    | stay => rfl
    | @join _ next _ _ linked _ _ _ link key declared present first found _ ih =>
      refine joinPath_cons.mpr ⟨link, declared, Or.inr ⟨key, present, Or.inr ?_⟩⟩
      exact ⟨linked, next, first, found, ih⟩

theorem joinPath_eq_none {table : Table} {row : Row} {path : List String} :
    joinPath rows organization model table row path = .ok none ↔
      Breaks rows organization model table row path := by
  constructor
  · intro walks
    induction path generalizing table row with
    | nil => cases walks
    | cons name rest ih =>
      obtain ⟨link, declared, ⟨absent, -⟩ | ⟨key, present, ⟨unmatched, -⟩ | joins⟩⟩ :=
        joinPath_cons.mp walks
      · exact ⟨[], name, rest, table, row, link, rfl, .stay table row, declared, Or.inl absent⟩
      · exact ⟨[], name, rest, table, row, link, rfl, .stay table row, declared,
          Or.inr ⟨key, present, unmatched⟩⟩
      · obtain ⟨linked, next, first, found, walks⟩ := joins
        exact (ih walks).join declared present first found
  · intro breaks
    obtain ⟨taken, name, rest, here, reached, link, split, chain, declared, absent⟩ := breaks
    subst split
    induction chain with
    | stay table row =>
      refine joinPath_cons.mpr ⟨link, declared, ?_⟩
      rcases absent with absent | ⟨key, present, unmatched⟩
      · exact Or.inl ⟨absent, rfl⟩
      · exact Or.inr ⟨key, present, Or.inl ⟨unmatched, rfl⟩⟩
    | @join _ next _ _ linked _ _ _ link' key isLink present first found _ ih =>
      refine joinPath_cons.mpr ⟨link', isLink, Or.inr ⟨key, present, Or.inr ?_⟩⟩
      exact ⟨linked, next, first, found, ih declared absent⟩

/-! ## Fields -/

variable {payload : Payload} {table : Table} {path : List String} {name : String}

theorem lookup_eq_ok (found : model.tables.get? payload.table = some table)
    {value? : Option Value} :
    lookup rows organization model payload path name = .ok value? ↔
      ∃ row?, joinPath rows organization model table payload.fields path = .ok row? ∧
        (row?.bind fun row => row.get? name) = value? := by
  refine Except.bind_eq_ok_iff.trans ?_
  simp only [DataModel.table_eq_ok.mpr found, Except.ok.injEq, exists_eq_left']
  refine Except.bind_eq_ok_iff.trans (exists_congr fun row? => and_congr Iff.rfl ?_)
  exact Iff.of_eq (Except.ok.injEq _ _)

theorem lookup_eq_some (found : model.tables.get? payload.table = some table) {value : Value} :
    lookup rows organization model payload path name = .ok (some value) ↔
      ∃ last final, Chain rows organization model table payload.fields path last final ∧
        final.get? name = some value := by
  rw [lookup_eq_ok found]
  constructor
  · intro finds
    obtain ⟨row?, walks, present⟩ := finds
    obtain ⟨final, isRow, present⟩ := Option.bind_eq_some_iff.mp present
    subst isRow
    obtain ⟨last, chain⟩ := joinPath_eq_some.mp walks
    exact ⟨last, final, chain, present⟩
  · intro ends
    obtain ⟨last, final, chain, present⟩ := ends
    exact ⟨some final, joinPath_eq_some.mpr ⟨last, chain⟩, present⟩

theorem lookup_eq_none (found : model.tables.get? payload.table = some table) :
    lookup rows organization model payload path name = .ok none ↔
      Breaks rows organization model table payload.fields path ∨
        ∃ last final, Chain rows organization model table payload.fields path last final ∧
          final.get? name = none := by
  rw [lookup_eq_ok found]
  constructor
  · intro finds
    obtain ⟨_ | final, walks, absent⟩ := finds
    · exact Or.inl (joinPath_eq_none.mp walks)
    · obtain ⟨last, chain⟩ := joinPath_eq_some.mp walks
      exact Or.inr ⟨last, final, chain, absent⟩
  · intro ends
    rcases ends with breaks | ⟨last, final, chain, absent⟩
    · exact ⟨none, joinPath_eq_none.mpr breaks, rfl⟩
    · exact ⟨some final, joinPath_eq_some.mpr ⟨last, chain⟩, absent⟩

end

/-! ## Reads -/

namespace Store

/-- Inserts rows one after the other. -/
def insertRows (store : Store) (more : List StoredRow) : Store :=
  more.foldl (fun store row => store.insertRow row.organization row.table row.fields) store

theorem insertRows_eq (store : Store) (more : List StoredRow) :
    store.insertRows more = { store with rows := store.rows ++ more } := by
  induction more generalizing store with
  | nil => rw [List.append_nil]; rfl
  | cons row rest ih =>
    show (store.insertRow row.organization row.table row.fields).insertRows rest = _
    rw [ih, insertRow, List.append_assoc, List.singleton_append]

/-- Without a failure to come, a read answers what the rows have. -/
theorem readField_eq_ok {store : Store} (calm : store.failingReads = 0) {organization : Uuid}
    {model : DataModel} {payload : Payload} {path : List String} {name : String}
    {value? : Option Value} :
    (store.readField organization model payload path name).1 = .ok value? ↔
      lookup store.rows organization model payload path name = .ok value? := by
  rw [readField_eq, if_pos calm]
  cases lookup store.rows organization model payload path name <;> simp [Except.mapError]

end Store

/-- For every read that the data model allows, on every store without a failure to come: it does not
fail. It answers a value exactly if there is a row for each link, each the first one that was
inserted of those that the row before leads to, and the last one has the value. It answers that
there is none exactly if the rows end early or the last one does not have the field. And once there
is a row for each link, no rows that are inserted change the answer, whatever their organizations,
tables and fields are. -/
theorem Scope.read_first_matches (scope : Scope) (store : Store) (path : List String)
    (name : String) (type : FieldType) (allowed : scope.check path name type = .ok ())
    (calm : store.failingReads = 0) :
    let answer (store : Store) :=
      (store.readField scope.organization scope.model scope.payload path name).1
    ∃ table, scope.model.tables.get? scope.payload.table = some table ∧
      let chain := Chain store.rows scope.organization scope.model table scope.payload.fields path
      (∃ value?, answer store = .ok value?) ∧
      (∀ value, answer store = .ok (some value) ↔
        ∃ last final, chain last final ∧ final.get? name = some value) ∧
      (answer store = .ok none ↔
        Breaks store.rows scope.organization scope.model table scope.payload.fields path ∨
          ∃ last final, chain last final ∧ final.get? name = none) ∧
      ∀ last final, chain last final → ∀ more, answer (store.insertRows more) = answer store := by
  intro answer
  obtain ⟨field, resolves, -⟩ := FieldRead.check_eq_ok.mp allowed
  have names := FieldRead.resolve_eq_ok.mp resolves
  cases names with
  | @stored _ _ _ table _ _ found _ _ _ =>
    refine ⟨table, found, ?_⟩
    intro chain
    -- The chain of the rows that are there is one of all rows, too, and decides what is found.
    have finds (more : List StoredRow) {last : Table} {final : Row} (ends : chain last final) :
        answer (store.insertRows more) = .ok (final.get? name) := by
      have calmStill : (store.insertRows more).failingReads = 0 := by
        rw [Store.insertRows_eq]
        exact calm
      refine (Store.readField_eq_ok calmStill).mpr ((lookup_eq_ok found).mpr ⟨some final, ?_, rfl⟩)
      rw [Store.insertRows_eq]
      exact joinPath_eq_some.mpr ⟨last, ends.append more⟩
    refine ⟨?_, fun value => ?_, ?_, fun last final ends more => ?_⟩
    · obtain ⟨value?, looksUp⟩ := lookup_isOk_of_resolve resolves
      exact ⟨value?, (Store.readField_eq_ok calm).mpr looksUp⟩
    · exact (Store.readField_eq_ok calm).trans (lookup_eq_some found)
    · exact (Store.readField_eq_ok calm).trans (lookup_eq_none found)
    · rw [finds more ends]
      exact (finds [] ends).symm

end Ingest

namespace Depot

/-- Drivers, who wear badges. -/
def drivers : Table :=
  ((Table.named "drivers").withField "badge" ⟨.string, false⟩).withField "name" ⟨.string, false⟩

/-- Vans, each with a link to its driver. -/
def vans : Table :=
  (((Table.named "vans").withField "plate" ⟨.string, false⟩).withField "driver"
    ⟨.string, true⟩).withLink "driver" ⟨"drivers", "badge", "driver"⟩

/-- Parcels, each with a link to the van that it is in. -/
def parcels : Table :=
  ((Table.named "parcels").withField "van" ⟨.string, false⟩).withLink "van"
    ⟨"vans", "plate", "van"⟩

/-- A parcel, for an organization. -/
def parcel : Ingest.Scope :=
  ⟨⟨3⟩, .ofTables [drivers, vans, parcels],
    ⟨"parcels", .ofList [("van", .string "p1")], .object [("van", .string "p1")]⟩⟩

def van (plate driver : String) : Row :=
  .ofList [("plate", .string plate), ("driver", .string driver)]

def driver (badge name : String) : Row :=
  .ofList [("badge", .string badge), ("name", .string name)]

/-- The van is stored twice with different drivers, and another organization has stored it first. -/
def store : Ingest.Store :=
  .insertRows .empty
    [⟨⟨9⟩, "vans", van "p1" "b2"⟩, ⟨⟨3⟩, "vans", van "p1" "b1"⟩, ⟨⟨3⟩, "vans", van "p1" "b2"⟩,
      ⟨⟨9⟩, "drivers", driver "b1" "Carl"⟩, ⟨⟨3⟩, "drivers", driver "b2" "Bert"⟩,
      ⟨⟨3⟩, "drivers", driver "b1" "Anna"⟩]

/-- The driver of the parcel's van is found over two links, and stays so whatever is inserted. -/
theorem read_first_matches_driver :
    parcel.check ["van", "driver"] "name" .string = .ok () ∧ store.failingReads = 0 ∧
      ∀ more, ((store.insertRows more).readField parcel.organization parcel.model parcel.payload
        ["van", "driver"] "name").1 = .ok (some (.string "Anna")) := by
  have allowed : parcel.check ["van", "driver"] "name" .string = .ok () := by rfl
  obtain ⟨table, -, -, finds, -, stays⟩ :=
    parcel.read_first_matches store ["van", "driver"] "name" .string allowed rfl
  have reads : (store.readField parcel.organization parcel.model parcel.payload ["van", "driver"]
      "name").1 = .ok (some (.string "Anna")) := by rfl
  obtain ⟨last, final, chain, -⟩ := (finds (.string "Anna")).mp reads
  exact ⟨allowed, rfl, fun more => (stays last final chain more).trans reads⟩

end Depot

end RiskScoring

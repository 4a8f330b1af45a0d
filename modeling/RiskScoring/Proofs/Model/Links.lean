import RiskScoring.Model.Basic
import RiskScoring.Proofs.Checks

/-!
# Links between tables

A data model is checked once, link by link. From then on a path of links can only fail at a name
that is not declared: no link of a checked model leads into the void, wherever it is met on a walk.

* `DataModel.Reaches`: the tables that links lead to.
* `DataModel.Joins`, `DataModel.Closed`: links that join declared fields of tables that are there.
* `DataModel.validate_eq_ok`: the check finds out whether all links do.
* `DataModel.walk_append`, `DataModel.follow_append`: a path is taken in parts.
* `DataModel.Closed.walk_cases`, `DataModel.Closed.follow_cases`: a path through a checked model
  ends at a table, or at a name that is not declared.
* `DataModel.closed_under_links`: the statement for every data model.
-/

namespace RiskScoring

/-- Links lead from a table to another one: each is a link of the table that the ones before it lead
to, and its linked table is there. -/
inductive DataModel.Reaches (model : DataModel) : Table → List String → Table → Prop
  | stay (table : Table) : Reaches model table [] table
  | follow {table next last : Table} {name : String} {link : Link} {rest : List String}
    (declared : table.links.get? name = some link)
    (linked : model.tables.get? link.table = some next) (reaches : Reaches model next rest last) :
    Reaches model table (name :: rest) last

/-- A link of a table leads to a table that is there, and both tables declare the fields that it
joins. -/
structure DataModel.Joins (model : DataModel) (owner : Table) (link : Link) : Prop where
  parent : ∃ linked field, model.tables.get? link.table = some linked ∧
    linked.fields.get? link.parentField = some field
  child : ∃ field, owner.fields.get? link.childField = some field

/-- All links of all tables join declared fields. -/
def DataModel.Closed (model : DataModel) : Prop :=
  ∀ key owner name link, model.tables.get? key = some owner → owner.links.get? name = some link →
    model.Joins owner link

namespace Table

variable {table : Table}

theorem field_eq_ok {name : String} {field : Field} :
    table.field name = .ok field ↔ table.fields.get? name = some field := by
  unfold Table.field
  cases table.fields.get? name <;> simp

theorem link_eq_ok {name : String} {link : Link} :
    table.link name = .ok link ↔ table.links.get? name = some link := by
  unfold Table.link
  cases table.links.get? name <;> simp

end Table

namespace DataModel

variable {model : DataModel}

theorem table_eq_ok {key : String} {table : Table} :
    model.table key = .ok table ↔ model.tables.get? key = some table := by
  unfold DataModel.table
  cases model.tables.get? key <;> simp

/-- The walk along a path ends at the table that its links lead to. -/
theorem walk_eq_ok {table last : Table} {path : List String} :
    model.walk table path = .ok last ↔ model.Reaches table path last := by
  induction path generalizing table with
  | nil =>
    rw [walk]
    constructor
    · rintro ⟨⟩
      exact .stay _
    · rintro ⟨⟩
      rfl
  | cons name rest ih =>
    rw [walk]
    constructor
    · intro walks
      obtain ⟨link, declared, walks⟩ := Except.bind_eq_ok_iff.mp walks
      obtain ⟨next, linked, walks⟩ := Except.bind_eq_ok_iff.mp walks
      exact .follow (Table.link_eq_ok.mp declared) (table_eq_ok.mp linked) (ih.mp walks)
    · rintro (_ | ⟨declared, linked, reaches⟩)
      refine Except.bind_eq_ok_iff.mpr ⟨_, Table.link_eq_ok.mpr declared, ?_⟩
      exact Except.bind_eq_ok_iff.mpr ⟨_, table_eq_ok.mpr linked, ih.mpr reaches⟩

theorem follow_eq_ok {start : String} {path : List String} {last : Table} :
    model.follow start path = .ok last ↔
      path ≠ [] ∧
        ∃ table, model.tables.get? start = some table ∧ model.Reaches table path last := by
  unfold follow
  by_cases empty : path = []
  · simp [empty]
  · rw [if_neg (by simpa using empty)]
    refine Except.bind_eq_ok_iff.trans ?_
    simp only [table_eq_ok, walk_eq_ok, ne_eq, empty, not_false_eq_true, true_and]

theorem follow_of_found {start : String} {table : Table} {path : List String} (nonempty : path ≠ [])
    (found : model.tables.get? start = some table) :
    model.follow start path = model.walk table path := by
  rw [follow, if_neg (by simpa using nonempty), table_eq_ok.mpr found]
  rfl

/-! ## The check -/

theorem checkLink_eq_ok {owner : Table} {link : Link} :
    model.checkLink owner link = .ok () ↔ model.Joins owner link := by
  constructor
  · intro passes
    obtain ⟨linked, found, passes⟩ := Except.bind_eq_ok_iff.mp passes
    obtain ⟨parent, isParent, passes⟩ := Except.bind_eq_ok_iff.mp passes
    obtain ⟨child, isChild, -⟩ := Except.bind_eq_ok_iff.mp passes
    exact ⟨⟨linked, parent, table_eq_ok.mp found, Table.field_eq_ok.mp isParent⟩, child,
      Table.field_eq_ok.mp isChild⟩
  · intro joins
    obtain ⟨⟨linked, parent, found, isParent⟩, child, isChild⟩ := joins
    refine Except.bind_eq_ok_iff.mpr ⟨linked, table_eq_ok.mpr found, ?_⟩
    refine Except.bind_eq_ok_iff.mpr ⟨parent, Table.field_eq_ok.mpr isParent, ?_⟩
    exact Except.bind_eq_ok_iff.mpr ⟨child, Table.field_eq_ok.mpr isChild, rfl⟩

/-- The order in which tables and links are checked does not matter for whether they pass. -/
theorem validate_eq_ok : model.validate = .ok () ↔ model.Closed := by
  simp only [validate, Except.forM_eq_ok_iff, checkLink_eq_ok, sortedTables, sortedLinks,
    List.mem_mergeSort, Dict.mem_values, Prod.forall, ← Dict.get?_eq_some]
  constructor
  · intro joins key owner name link found declared
    exact joins owner ⟨key, found⟩ name link declared
  · intro closed owner isTable name link declared
    obtain ⟨key, found⟩ := isTable
    exact closed key owner name link found declared

/-! ## Walks -/

/-- A path is walked in parts. -/
theorem walk_append (model : DataModel) (table : Table) (first rest : List String) :
    model.walk table (first ++ rest) =
      (model.walk table first).bind fun here => model.walk here rest := by
  induction first generalizing table with
  | nil => rfl
  | cons name others ih =>
    rw [List.cons_append, walk, walk]
    cases table.link name with
    | error error => rfl
    | ok link =>
      show (model.table link.table).bind _ = ((model.table link.table).bind _).bind _
      cases model.table link.table with
      | error error => rfl
      | ok next => exact ih next

theorem follow_append {start : String} {first : List String} (nonempty : first ≠ [])
    (rest : List String) : model.follow start (first ++ rest) =
      (model.follow start first).bind fun here => model.walk here rest := by
  have longer : first ++ rest ≠ [] := fun empty => nonempty (List.append_eq_nil_iff.mp empty).1
  rw [follow, follow, if_neg (by simpa using longer), if_neg (by simpa using nonempty)]
  cases model.table start with
  | error error => rfl
  | ok table => exact model.walk_append table first rest

theorem reaches_append {table last : Table} {first rest : List String} :
    model.Reaches table (first ++ rest) last ↔
      ∃ here, model.Reaches table first here ∧ model.Reaches here rest last := by
  simp only [← walk_eq_ok, walk_append, Except.bind_eq_ok_iff]

/-- A walk stops at a name that the table reached by then does not declare. -/
theorem walk_of_undeclared {table here : Table} {taken rest : List String} {name : String}
    (reaches : model.Reaches table taken here) (undeclared : here.links.get? name = none) :
    model.walk table (taken ++ name :: rest) = .error (.unknownLink here.name name) := by
  rw [walk_append, walk_eq_ok.mpr reaches]
  show model.walk here (name :: rest) = _
  rw [walk, Table.link, undeclared]
  rfl

/-- Links lead from a table of the model to tables of the model. -/
theorem Reaches.found {table last : Table} {path : List String}
    (reaches : model.Reaches table path last) {start : String}
    (found : model.tables.get? start = some table) : ∃ key, model.tables.get? key = some last := by
  induction reaches generalizing start with
  | stay => exact ⟨start, found⟩
  | follow declared linked reaches ih => exact ih linked

/-- A path that leads somewhere has a last link, and leads to the table which that one names. -/
theorem Reaches.last_link {table last : Table} {path : List String} (nonempty : path ≠ [])
    (reaches : model.Reaches table path last) :
    ∃ taken name here link, path = taken ++ [name] ∧ model.Reaches table taken here ∧
      here.links.get? name = some link ∧ model.tables.get? link.table = some last := by
  obtain ⟨taken, name, split⟩ := (List.eq_nil_or_concat path).resolve_left nonempty
  rw [List.concat_eq_append] at split
  subst split
  obtain ⟨here, before, final⟩ := reaches_append.mp reaches
  cases final with
  | @follow _ next _ _ link _ declared linked stays =>
    cases stays
    exact ⟨taken, name, here, link, rfl, before, declared, linked⟩

namespace Closed

/-- Every link that is met on a walk joins declared fields. -/
theorem joins (closed : model.Closed) {start : String} {table here : Table}
    (found : model.tables.get? start = some table) {taken : List String}
    (reaches : model.Reaches table taken here) {name : String} {link : Link}
    (declared : here.links.get? name = some link) : model.Joins here link := by
  obtain ⟨key, isThere⟩ := reaches.found found
  exact closed key here name link isThere declared

/-- A walk through a checked model ends at a table, or it stops at the first name that is not
declared. -/
theorem walk_cases (closed : model.Closed) {start : String} {table : Table}
    (found : model.tables.get? start = some table) (path : List String) :
    (∃ last, model.Reaches table path last) ∨
      ∃ taken here name rest, path = taken ++ name :: rest ∧ model.Reaches table taken here ∧
        here.links.get? name = none := by
  induction path generalizing start table with
  | nil => exact Or.inl ⟨table, .stay table⟩
  | cons name rest ih =>
    cases declared : table.links.get? name with
    | none => exact Or.inr ⟨[], table, name, rest, rfl, .stay table, declared⟩
    | some link =>
      obtain ⟨next, parent, linked, -⟩ := (closed start table name link found declared).parent
      rcases ih linked with ⟨last, reaches⟩ | ⟨taken, here, missing, later, split, reaches, absent⟩
      · exact Or.inl ⟨last, .follow declared linked reaches⟩
      · refine Or.inr ⟨name :: taken, here, missing, later, by rw [split, List.cons_append], ?_⟩
        exact ⟨.follow declared linked reaches, absent⟩

/-- Following a path through a checked model can only fail at a name that is not declared. -/
theorem follow_cases (closed : model.Closed) {start : String} {table : Table}
    (found : model.tables.get? start = some table) {path : List String} (nonempty : path ≠ []) :
    (∃ last, model.follow start path = .ok last ∧ model.Reaches table path last) ∨
      ∃ taken here name rest, path = taken ++ name :: rest ∧ model.Reaches table taken here ∧
        here.links.get? name = none ∧
        model.follow start path = .error (.unknownLink here.name name) := by
  rw [follow_of_found nonempty found]
  rcases closed.walk_cases found path with
    ⟨last, reaches⟩ | ⟨taken, here, name, rest, split, reaches, undeclared⟩
  · exact Or.inl ⟨last, walk_eq_ok.mpr reaches, reaches⟩
  · refine Or.inr ⟨taken, here, name, rest, split, reaches, undeclared, ?_⟩
    rw [split, walk_of_undeclared reaches undeclared]

end Closed

/-- What follows a path starts at the table that the last link of the path names. -/
theorem follow_append_of_ok {start : String} {first rest : List String} {last : Table}
    (nonempty : first ≠ []) (nonemptyRest : rest ≠ [])
    (follows : model.follow start first = .ok last) :
    ∃ table taken here name link, model.tables.get? start = some table ∧ first = taken ++ [name] ∧
      model.Reaches table taken here ∧ here.links.get? name = some link ∧
      model.tables.get? link.table = some last ∧
      model.follow start (first ++ rest) = model.follow link.table rest := by
  obtain ⟨-, table, found, reaches⟩ := follow_eq_ok.mp follows
  obtain ⟨taken, name, here, link, split, before, declared, linked⟩ := reaches.last_link nonempty
  refine ⟨table, taken, here, name, link, found, split, before, declared, linked, ?_⟩
  rw [follow_append nonempty, follows, follow_of_found nonemptyRest linked]
  rfl

/-- For every data model: the check succeeds exactly if every link of every table leads to a table
that is there and has the parent field, and the owner has the child field. If it succeeds, a path of
links from a table of the model leads to a table, or fails for the first name that the table reached
by then does not declare, and never for a table; and every link that is met on it joins declared
fields. In every data model, two paths one after the other are followed as the second one from the
table that the last link of the first one names. -/
theorem closed_under_links (model : DataModel) :
    (model.validate = .ok () ↔ ∀ key owner name link, model.tables.get? key = some owner →
      owner.links.get? name = some link → model.Joins owner link) ∧
    (model.validate = .ok () → ∀ start table, model.tables.get? start = some table →
      ∀ path, path ≠ [] →
        ((∃ last, model.follow start path = .ok last ∧ model.Reaches table path last) ∨
          ∃ taken here name rest, path = taken ++ name :: rest ∧
            model.Reaches table taken here ∧ here.links.get? name = none ∧
            model.follow start path = .error (.unknownLink here.name name)) ∧
        (∀ key, model.follow start path ≠ .error (.unknownTable key)) ∧
        ∀ taken here name rest link, path = taken ++ name :: rest →
          model.Reaches table taken here → here.links.get? name = some link →
          model.Joins here link) ∧
    ∀ start first rest, first ≠ [] → rest ≠ [] →
      (∀ error, model.follow start first = .error error →
        model.follow start (first ++ rest) = .error error) ∧
      ∀ last, model.follow start first = .ok last →
        ∃ table taken here name link, model.tables.get? start = some table ∧
          first = taken ++ [name] ∧ model.Reaches table taken here ∧
          here.links.get? name = some link ∧ model.tables.get? link.table = some last ∧
          model.follow start (first ++ rest) = model.follow link.table rest := by
  refine ⟨validate_eq_ok, ?_, ?_⟩
  · intro valid start table found path nonempty
    have closed : model.Closed := validate_eq_ok.mp valid
    have ends := closed.follow_cases found nonempty
    refine ⟨ends, fun key fails => ?_, fun taken here name rest link _ reaches declared =>
      closed.joins found reaches declared⟩
    rcases ends with ⟨last, follows, -⟩ | ⟨_, _, _, _, -, -, -, follows⟩
    · cases follows.symm.trans fails
    · cases follows.symm.trans fails
  · intro start first rest nonempty nonemptyRest
    refine ⟨fun error fails => ?_, fun last follows =>
      follow_append_of_ok nonempty nonemptyRest follows⟩
    rw [follow_append nonempty, fails]
    rfl

end DataModel

namespace Staff

/-- Employees, who have a manager and a company. They are stored under another name than their own.
-/
def employees : Table where
  name := "employees"
  fields := ⟨[("id", ⟨.string, false⟩), ("manager_id", ⟨.string, true⟩),
    ("company_id", ⟨.string, false⟩)], by decide⟩
  links := ⟨[("manager", ⟨"staff", "id", "manager_id"⟩),
    ("company", ⟨"firms", "id", "company_id"⟩)], by decide⟩

/-- Companies, each with an employee who owns it. -/
def companies : Table where
  name := "companies"
  fields := ⟨[("id", ⟨.string, false⟩), ("owner_id", ⟨.string, false⟩)], by decide⟩
  links := ⟨[("owner", ⟨"staff", "id", "owner_id"⟩)], by decide⟩

/-- The links lead around in circles. -/
def model : DataModel := ⟨⟨[("staff", employees), ("firms", companies)], by decide⟩⟩

theorem model_joins (key : String) (owner : Table) (name : String) (link : Link)
    (found : model.tables.get? key = some owner) (declared : owner.links.get? name = some link) :
    model.Joins owner link := by
  have stored := Dict.get?_eq_some.mp found
  simp only [model, List.mem_cons, Prod.mk.injEq, List.not_mem_nil, or_false] at stored
  rcases stored with ⟨-, isEmployees⟩ | ⟨-, isCompanies⟩
  · subst isEmployees
    have listed := Dict.get?_eq_some.mp declared
    simp only [employees, List.mem_cons, Prod.mk.injEq, List.not_mem_nil, or_false] at listed
    rcases listed with ⟨-, isManager⟩ | ⟨-, isCompany⟩
    · subst isManager
      exact ⟨⟨employees, ⟨.string, false⟩, rfl, rfl⟩, ⟨.string, true⟩, rfl⟩
    · subst isCompany
      exact ⟨⟨companies, ⟨.string, false⟩, rfl, rfl⟩, ⟨.string, false⟩, rfl⟩
  · subst isCompanies
    have listed := Dict.get?_eq_some.mp declared
    simp only [companies, List.mem_cons, Prod.mk.injEq, List.not_mem_nil, or_false] at listed
    obtain ⟨-, isOwner⟩ := listed
    subst isOwner
    exact ⟨⟨employees, ⟨.string, false⟩, rfl, rfl⟩, ⟨.string, false⟩, rfl⟩

/-- The model passes its check. A path that runs in circles fails for the deputy, who is declared
nowhere, and names the table by its own name. A path in two parts goes on from the staff. -/
theorem closed_under_links_circles :
    model.validate = .ok () ∧
    (∃ (taken : List String) (here : Table) (name : String) (rest : List String),
      ["company", "owner", "manager", "deputy", "company"] = taken ++ name :: rest ∧
      here.links.get? name = none ∧
      model.follow "staff" ["company", "owner", "manager", "deputy", "company"] =
        .error (.unknownLink here.name name)) ∧
    model.follow "staff" (["company", "owner"] ++ ["manager", "company"]) =
      model.follow "staff" ["manager", "company"] := by
  obtain ⟨checks, walks, parts⟩ := model.closed_under_links
  have valid : model.validate = .ok () := checks.mpr model_joins
  have fails : model.follow "staff" ["company", "owner", "manager", "deputy", "company"] =
      .error (.unknownLink "employees" "deputy") := by rfl
  have follows : model.follow "staff" ["company", "owner"] = .ok employees := by rfl
  refine ⟨valid, ?_, ?_⟩
  · rcases (walks valid "staff" employees rfl
        ["company", "owner", "manager", "deputy", "company"] (by simp)).1 with
      ⟨last, ends, -⟩ | ⟨taken, here, name, rest, split, -, undeclared, stops⟩
    · cases fails.symm.trans ends
    · exact ⟨taken, here, name, rest, split, undeclared, stops⟩
  · obtain ⟨table, taken, here, name, link, found, split, reaches, declared, -, goesOn⟩ :=
      (parts "staff" ["company", "owner"] ["manager", "company"] (by simp) (by simp)).2 _ follows
    obtain ⟨isTaken, isName⟩ : ["company"] = taken ∧ ["owner"] = [name] :=
      List.append_inj' split rfl
    cases isTaken
    cases isName
    cases found
    have company : model.walk employees ["company"] = .ok companies := by rfl
    cases company.symm.trans (DataModel.walk_eq_ok.mpr reaches)
    cases declared
    exact goesOn

end Staff

end RiskScoring

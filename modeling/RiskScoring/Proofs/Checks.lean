/-!
# Checks in a row

Computations that may fail, one after the other.

* `Except.bind_eq_ok_iff`: two in a row succeed if both do.
* `Except.bind_congr`: what follows a computation only matters where that succeeds.
* `Except.bind_ite`: two checks that fail alike are one.
* `Except.forM_eq_ok_iff`: checks of the items of a list.
* `Except.getElem?_of_mapM`, `Except.mapM_eq_error_iff`: readings of the items of a list.
* `Except.Reports`: a computation stops at the first of its faults.
-/

namespace RiskScoring

variable {ε α β : Type} {p q : Prop} [Decidable p] [Decidable q] {x : α} {y : β} {error : ε}
  {f : α → Except ε β}

theorem Except.bind_ite_ok (next : f x = .ok y) :
    (if p then .ok x else .error error : Except ε α).bind f =
      if p then .ok y else .error error := by
  split
  · exact next
  · rfl

theorem Except.map_ite {g : α → β} :
    (if p then .ok x else .error error : Except ε α).map g =
      if p then .ok (g x) else .error error := by
  split <;> rfl

/-- Two checks that fail alike are one. -/
theorem Except.bind_ite (next : f x = if q then .ok y else .error error) :
    (if p then .ok x else .error error : Except ε α).bind f =
      if p ∧ q then .ok y else .error error := by
  by_cases first : p
  · rw [if_pos first]
    simp only [first, true_and, ← next]
    rfl
  · simp only [first, false_and, if_false]
    rfl

/-- A computation in two parts succeeds if both do. -/
theorem Except.bind_eq_ok_iff {start : Except ε α} :
    start.bind f = .ok y ↔ ∃ value, start = .ok value ∧ f value = .ok y := by
  cases start with
  | error error => simp [Except.bind]
  | ok value => simp [Except.bind]

/-- What follows a computation only matters where that succeeds. -/
theorem Except.bind_congr {start : Except ε α} {g : α → Except ε β}
    (alike : ∀ value, start = .ok value → f value = g value) : start >>= f = start >>= g := by
  cases start with
  | error error => rfl
  | ok value => exact alike value rfl

/-- Checks of all items of a list succeed if each does. -/
theorem Except.forM_eq_ok_iff {items : List α} {check : α → Except ε Unit} :
    items.forM check = .ok () ↔ ∀ item ∈ items, check item = .ok () := by
  induction items with
  | nil => exact iff_of_true rfl (List.forall_mem_nil _)
  | cons item rest ih =>
    have opened : (item :: rest).forM check = (check item).bind fun _ => rest.forM check := rfl
    rw [opened, bind_eq_ok_iff, List.forall_mem_cons, ih]
    constructor
    · intro succeeds
      obtain ⟨_, first, others⟩ := succeeds
      exact ⟨first, others⟩
    · intro succeeds
      exact ⟨(), succeeds.1, succeeds.2⟩

/-! ## Readings in a row -/

theorem Except.mapM_cons (item : α) (rest : List α) :
    (item :: rest).mapM f = (f item).bind fun value => (rest.mapM f).map (value :: ·) := by
  rw [List.mapM_cons]
  cases f item with
  | error error => rfl
  | ok value => cases rest.mapM f <;> rfl

/-- The values that are read stand where the items stand that they are read from. -/
theorem Except.getElem?_of_mapM {items : List α} {values : List β}
    (reads : items.mapM f = .ok values) {index : Nat} {value : β} :
    values[index]? = some value ↔ ∃ item, items[index]? = some item ∧ f item = .ok value := by
  induction items generalizing index values with
  | nil =>
    cases reads
    simp
  | cons item rest ih =>
    rw [mapM_cons] at reads
    obtain ⟨first, readsFirst, goesOn⟩ := bind_eq_ok_iff.mp reads
    cases readsRest : rest.mapM f with
    | error error =>
      rw [readsRest] at goesOn
      cases goesOn
    | ok others =>
      rw [readsRest] at goesOn
      cases goesOn
      cases index with
      | zero => simp [readsFirst]
      | succ index => simpa using ih readsRest

/-- Readings in a row fail as the first one that fails. -/
theorem Except.mapM_eq_error_iff {items : List α} : items.mapM f = .error error ↔
    ∃ (index : Nat) (item : α), items[index]? = some item ∧ f item = .error error ∧
      ∀ earlier < index, ∀ other, items[earlier]? = some other → ∃ value, f other = .ok value := by
  induction items with
  | nil =>
    constructor
    · nofun
    · rintro ⟨index, item, found, -⟩
      cases found
  | cons first rest ih =>
    rw [mapM_cons]
    cases readsFirst : f first with
    | error failure =>
      constructor
      · rintro ⟨⟩
        exact ⟨0, first, rfl, readsFirst, nofun⟩
      · rintro ⟨index, item, found, fails, before⟩
        cases index with
        | zero =>
          obtain rfl : first = item := by simpa using found
          cases readsFirst.symm.trans fails
          rfl
        | succ index =>
          obtain ⟨value, reads⟩ := before 0 (Nat.succ_pos index) first rfl
          cases readsFirst.symm.trans reads
    | ok value =>
      have goesOn : ((Except.ok value).bind fun value => (rest.mapM f).map (value :: ·)) =
          .error error ↔ rest.mapM f = .error error := by
        cases rest.mapM f <;> simp [Except.bind, Except.map]
      rw [goesOn, ih]
      constructor
      · rintro ⟨index, item, found, fails, before⟩
        refine ⟨index + 1, item, found, fails, fun earlier isEarlier other listed => ?_⟩
        cases earlier with
        | zero =>
          obtain rfl : first = other := by simpa using listed
          exact ⟨value, readsFirst⟩
        | succ earlier => exact before earlier (Nat.lt_of_succ_lt_succ isEarlier) other listed
      · rintro ⟨index, item, found, fails, before⟩
        cases index with
        | zero =>
          obtain rfl : first = item := by simpa using found
          cases readsFirst.symm.trans fails
        | succ index =>
          exact ⟨index, item, found, fails, fun earlier isEarlier other listed =>
            before (earlier + 1) (Nat.succ_lt_succ isEarlier) other listed⟩

/-! ## The first fault -/

/-- The computation stops at the first of the faults, and succeeds if there is none. -/
def Except.Reports (faults : List ε) (result : Except ε α) : Prop :=
  match faults with
  | [] => ∃ value, result = .ok value
  | fault :: _ => result = .error fault

namespace Except.Reports

variable {faults more : List ε} {start : Except ε α}

theorem ok (value : α) : Except.Reports [] (.ok value : Except ε α) := ⟨value, rfl⟩

/-- What comes later is not looked at if there is a fault before. -/
theorem bind (reports : Except.Reports faults start)
    (goesOn : ∀ value, start = .ok value → Except.Reports more (f value)) :
    Except.Reports (faults ++ more) (start >>= f) := by
  cases faults with
  | nil =>
    obtain ⟨value, succeeds⟩ := reports
    have later := goesOn value succeeds
    rw [succeeds]
    exact later
  | cons fault rest =>
    have stops : start = .error fault := reports
    rw [stops]
    exact rfl

theorem map (reports : Except.Reports faults start) (g : α → β) :
    Except.Reports faults (start.map g) := by
  have mapped : Except.Reports (faults ++ []) (start >>= fun value => .ok (g value)) :=
    reports.bind fun value _ => .ok (g value)
  rw [List.append_nil] at mapped
  cases start with
  | error error => exact mapped
  | ok value => exact mapped

theorem exists_ok_iff (reports : Except.Reports faults start) :
    (∃ value, start = .ok value) ↔ faults = [] := by
  cases faults with
  | nil => exact iff_of_true reports rfl
  | cons fault rest =>
    have stops : start = .error fault := reports
    simp [stops]

theorem eq_error_iff (reports : Except.Reports faults start) {error : ε} :
    start = .error error ↔ faults.head? = some error := by
  cases faults with
  | nil =>
    obtain ⟨value, succeeds⟩ := reports
    simp [succeeds]
  | cons fault rest =>
    have stops : start = .error fault := reports
    simp [stops]

end Except.Reports

end RiskScoring

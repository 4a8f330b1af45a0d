/-!
# Dictionaries

A `Dict` is a finite map that remembers the order in which its keys came. No key occurs twice, and
the type says so. `Dict.insert` puts a new key at the end and lets a known key keep its place.
-/

namespace RiskScoring

/-- A finite map in the order of insertion. -/
structure Dict (κ α : Type) where
  entries : List (κ × α)
  distinct : (entries.map Prod.fst).Nodup
deriving DecidableEq

namespace Dict

variable {κ α β : Type}

/-- The dictionary without entries. -/
def empty : Dict κ α := ⟨[], List.nodup_nil⟩

instance : Inhabited (Dict κ α) := ⟨empty⟩

def keys (dict : Dict κ α) : List κ := dict.entries.map Prod.fst

def values (dict : Dict κ α) : List α := dict.entries.map Prod.snd

variable [DecidableEq κ]

/-- The value of a key in a list of entries: the first one counts. -/
def find? (key : κ) : List (κ × α) → Option α
  | [] => none
  | (other, value) :: rest => if other = key then some value else find? key rest

/-- Puts an entry into a list of entries: a key that is there keeps its place and takes the new
value, another one goes to the end. -/
def insertEntry (key : κ) (value : α) : List (κ × α) → List (κ × α)
  | [] => [(key, value)]
  | (other, old) :: rest =>
    if other = key then (key, value) :: rest else (other, old) :: insertEntry key value rest

theorem keys_insertEntry (key : κ) (value : α) (entries : List (κ × α)) :
    (insertEntry key value entries).map Prod.fst =
      if key ∈ entries.map Prod.fst then entries.map Prod.fst
      else entries.map Prod.fst ++ [key] := by
  induction entries with
  | nil => simp [insertEntry]
  | cons entry rest ih =>
    obtain ⟨other, old⟩ := entry
    by_cases h : other = key
    · simp [insertEntry, h]
    · have h' : ¬ key = other := fun e => h e.symm
      simp only [insertEntry, h, if_false, List.map_cons, ih, List.mem_cons, h', false_or]
      split <;> simp

/-- A new key goes to the end. -/
theorem insertEntry_of_fresh {key : κ} {entries : List (κ × α)}
    (fresh : key ∉ entries.map Prod.fst) (value : α) :
    insertEntry key value entries = entries ++ [(key, value)] := by
  induction entries with
  | nil => rfl
  | cons entry rest ih =>
    rw [List.map_cons, List.mem_cons, not_or] at fresh
    rw [insertEntry, if_neg (Ne.symm fresh.1), ih fresh.2, List.cons_append]

/-- The value of a key. -/
def get? (dict : Dict κ α) (key : κ) : Option α := find? key dict.entries

/-- Adds an entry, or replaces the value of a key that is there. -/
def insert (dict : Dict κ α) (key : κ) (value : α) : Dict κ α where
  entries := insertEntry key value dict.entries
  distinct := by
    rw [keys_insertEntry]
    split
    · exact dict.distinct
    · rename_i fresh
      exact List.nodup_append.mpr ⟨dict.distinct, by simp, by
        intro a ha b hb
        obtain rfl := List.mem_singleton.mp hb
        exact fun e => fresh (e ▸ ha)⟩

/-- The dictionary of a list of entries; the last value of a repeated key counts. -/
def ofList (entries : List (κ × α)) : Dict κ α :=
  entries.foldl (fun dict entry => dict.insert entry.1 entry.2) empty

omit [DecidableEq κ] in
theorem keys_mapEntries (f : κ → α → β) (entries : List (κ × α)) :
    (entries.map fun entry => (entry.1, f entry.1 entry.2)).map Prod.fst =
      entries.map Prod.fst := by
  simp

omit [DecidableEq κ] in
/-- Replaces every value. -/
def map (f : κ → α → β) (dict : Dict κ α) : Dict κ β where
  entries := dict.entries.map fun entry => (entry.1, f entry.1 entry.2)
  distinct := by rw [keys_mapEntries]; exact dict.distinct

@[simp]
theorem find?_insertEntry (key other : κ) (value : α) (entries : List (κ × α)) :
    find? other (insertEntry key value entries) =
      if key = other then some value else find? other entries := by
  induction entries with
  | nil => simp [insertEntry, find?]
  | cons entry rest ih =>
    obtain ⟨first, old⟩ := entry
    by_cases h : first = key
    · subst h
      by_cases h' : first = other <;> simp [insertEntry, find?, h']
    · by_cases h' : first = other
      · subst h'
        have hk : ¬ key = first := fun e => h e.symm
        simp [insertEntry, find?, h, hk]
      · simp [insertEntry, find?, h, h', ih]

/-- After an insertion the key has the new value and all others keep theirs. -/
@[simp]
theorem get?_insert (dict : Dict κ α) (key other : κ) (value : α) :
    (dict.insert key value).get? other = if key = other then some value else dict.get? other :=
  find?_insertEntry key other value dict.entries

@[simp]
theorem get?_empty (key : κ) : (empty : Dict κ α).get? key = none := rfl

/-- A key that is not there is none of those that are. -/
theorem ne_of_fresh {dict : Dict κ α} {key other : κ} {value : α}
    (fresh : dict.get? key = none) (present : dict.get? other = some value) : key ≠ other := by
  rintro rfl
  rw [fresh] at present
  cases present

/-- A new key leaves the values of the others. -/
theorem get?_insert_of_fresh {dict : Dict κ α} {key other : κ} {old : α}
    (fresh : dict.get? key = none) (present : dict.get? other = some old) (value : α) :
    (dict.insert key value).get? other = some old := by
  rw [get?_insert, if_neg (ne_of_fresh fresh present), present]

theorem mem_of_find? {key : κ} {value : α} {entries : List (κ × α)}
    (found : find? key entries = some value) : (key, value) ∈ entries := by
  induction entries with
  | nil => cases found
  | cons entry rest ih =>
    rw [find?] at found
    split at found
    · rename_i same
      cases found
      subst same
      exact List.mem_cons_self
    · exact List.mem_cons_of_mem _ (ih found)

theorem find?_of_mem {key : κ} {value : α} {entries : List (κ × α)}
    (distinct : (entries.map Prod.fst).Nodup) (listed : (key, value) ∈ entries) :
    find? key entries = some value := by
  induction entries with
  | nil => cases listed
  | cons entry rest ih =>
    rw [List.map_cons, List.nodup_cons] at distinct
    rcases List.mem_cons.mp listed with rfl | later
    · simp [find?]
    · have other : entry.1 ≠ key := by
        intro same
        exact distinct.1 (same ▸ List.mem_map_of_mem later)
      rw [find?, if_neg other, ih distinct.2 later]

theorem get?_eq_some {dict : Dict κ α} {key : κ} {value : α} :
    dict.get? key = some value ↔ (key, value) ∈ dict.entries :=
  ⟨mem_of_find?, find?_of_mem dict.distinct⟩

/-- New entries come behind those that are there. -/
theorem entries_foldl_insert {dict : Dict κ α} {entries : List (κ × α)}
    (distinct : ((dict.entries ++ entries).map Prod.fst).Nodup) :
    (entries.foldl (fun dict entry => dict.insert entry.1 entry.2) dict).entries =
      dict.entries ++ entries := by
  induction entries generalizing dict with
  | nil => simp
  | cons entry rest ih =>
    have fresh : entry.1 ∉ dict.entries.map Prod.fst := by
      rw [List.map_append, List.nodup_append] at distinct
      exact fun listed => distinct.2.2 _ listed _ List.mem_cons_self rfl
    have inserted : (dict.insert entry.1 entry.2).entries = dict.entries ++ [entry] :=
      insertEntry_of_fresh fresh entry.2
    have goesOn : dict.entries ++ entry :: rest =
        (dict.insert entry.1 entry.2).entries ++ rest := by
      rw [inserted, List.append_assoc, List.singleton_append]
    rw [goesOn] at distinct ⊢
    exact ih distinct

/-- A key that is there takes the new value in its place. -/
theorem insertEntry_of_mem {key : κ} {entries : List (κ × α)}
    (distinct : (entries.map Prod.fst).Nodup) (listed : key ∈ entries.map Prod.fst) (value : α) :
    insertEntry key value entries =
      entries.map fun entry => if entry.1 = key then (key, value) else entry := by
  induction entries with
  | nil => cases listed
  | cons entry rest ih =>
    rw [List.map_cons, List.nodup_cons] at distinct
    by_cases same : entry.1 = key
    · -- The key is not in the rest, so nothing is replaced there.
      have kept : rest.map (fun entry => if entry.1 = key then (key, value) else entry) = rest := by
        refine (List.map_congr_left fun later isLater => if_neg ?_).trans (List.map_id rest)
        intro sameLater
        exact distinct.1 (same.trans sameLater.symm ▸ List.mem_map_of_mem isLater)
      rw [insertEntry, if_pos same, List.map_cons, if_pos same, kept]
    · have later : key ∈ rest.map Prod.fst :=
        (List.mem_cons.mp listed).resolve_left (Ne.symm same)
      rw [insertEntry, if_neg same, List.map_cons, if_neg same, ih distinct.2 later]

theorem find?_eq_none {key : κ} {entries : List (κ × α)} :
    find? key entries = none ↔ key ∉ entries.map Prod.fst := by
  induction entries with
  | nil => simp [find?]
  | cons entry rest ih =>
    rw [find?, List.map_cons, List.mem_cons, not_or]
    by_cases same : entry.1 = key
    · simp [same]
    · simp [same, Ne.symm same, ih]

omit [DecidableEq κ] in
theorem ext {x y : Dict κ α} (same : x.entries = y.entries) : x = y := by
  cases x
  cases y
  cases same
  rfl

/-- A dictionary is made of its entries. -/
theorem ofList_entries (dict : Dict κ α) : ofList dict.entries = dict := by
  have distinct : (((empty : Dict κ α).entries ++ dict.entries).map Prod.fst).Nodup :=
    dict.distinct
  exact ext (entries_foldl_insert distinct)

theorem find?_mapEntries (f : κ → α → β) (key : κ) (entries : List (κ × α)) :
    find? key (entries.map fun entry => (entry.1, f entry.1 entry.2)) =
      (find? key entries).map (f key) := by
  induction entries with
  | nil => rfl
  | cons entry rest ih =>
    by_cases same : entry.1 = key
    · subst same
      simp [find?]
    · simp [find?, same, ih]

theorem mapEntries_insertEntry (f : κ → α → β) (key : κ) (value : α)
    (entries : List (κ × α)) :
    (insertEntry key value entries).map (fun entry => (entry.1, f entry.1 entry.2)) =
      insertEntry key (f key value) (entries.map fun entry => (entry.1, f entry.1 entry.2)) := by
  induction entries with
  | nil => rfl
  | cons entry rest ih =>
    by_cases same : entry.1 = key
    · simp [insertEntry, same]
    · simp [insertEntry, same, ih]

@[simp]
theorem get?_map (f : κ → α → β) (dict : Dict κ α) (key : κ) :
    (dict.map f).get? key = (dict.get? key).map (f key) :=
  find?_mapEntries f key dict.entries

theorem map_insert (f : κ → α → β) (dict : Dict κ α) (key : κ) (value : α) :
    (dict.insert key value).map f = (dict.map f).insert key (f key value) :=
  ext (mapEntries_insertEntry f key value dict.entries)

theorem mem_values {dict : Dict κ α} {value : α} :
    value ∈ dict.values ↔ ∃ key, dict.get? key = some value := by
  simp only [values, List.mem_map, Prod.exists, exists_eq_right, get?_eq_some]

/-- Dictionaries have the same entries, in whatever order, exactly if every key has the same value
in both. -/
theorem perm_iff {x y : Dict κ α} :
    x.entries.Perm y.entries ↔ ∀ key, x.get? key = y.get? key := by
  have nodup (dict : Dict κ α) : dict.entries.Nodup :=
    List.Pairwise.of_map Prod.fst (fun entry other differ same => differ (congrArg Prod.fst same))
      dict.distinct
  rw [List.perm_ext_iff_of_nodup (nodup x) (nodup y)]
  constructor
  · intro same key
    refine Option.ext fun value => ?_
    rw [get?_eq_some, get?_eq_some]
    exact same (key, value)
  · intro same entry
    rw [← get?_eq_some, ← get?_eq_some, same]

/-- A key that is there keeps its place. -/
theorem keys_insert_of_found {dict : Dict κ α} {key : κ} {old : α}
    (found : dict.get? key = some old) (value : α) : (dict.insert key value).keys = dict.keys := by
  have listed : key ∈ dict.entries.map Prod.fst := List.mem_map_of_mem (get?_eq_some.mp found)
  exact (keys_insertEntry key value dict.entries).trans (if_pos listed)

omit [DecidableEq κ] in
theorem keys_map (f : κ → α → β) (dict : Dict κ α) : (dict.map f).keys = dict.keys :=
  keys_mapEntries f dict.entries

theorem keys_map_get? (dict : Dict κ α) :
    (dict.keys.map fun key => (key, dict.get? key)) =
      dict.entries.map fun entry => (entry.1, some entry.2) := by
  rw [keys, List.map_map]
  refine List.map_congr_left fun entry listed => ?_
  have found : dict.get? entry.1 = some entry.2 := get?_eq_some.mpr listed
  exact Prod.ext rfl found

/-- Dictionaries are equal if they have the same keys in the same order, and every key has the same
value in both. -/
theorem ext_get? {x y : Dict κ α} (keys : x.keys = y.keys)
    (same : ∀ key, x.get? key = y.get? key) : x = y := by
  have injective : ∀ entry other : κ × α, (entry.1, some entry.2) = (other.1, some other.2) →
      entry = other := by
    intro entry other equal
    obtain ⟨sameKey, sameValue⟩ := Prod.mk.inj equal
    exact Prod.ext sameKey (Option.some.inj sameValue)
  refine ext ((List.map_inj_right injective).mp ?_)
  rw [← keys_map_get?, ← keys_map_get?, keys, funext same]

end Dict

end RiskScoring

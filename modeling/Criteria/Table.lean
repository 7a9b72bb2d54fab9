/-!
# Tables

Finite maps from names to values, as lists of entries whose names are distinct.

## Main definitions

* `Criteria.Table` — the type.
* `Criteria.Table.get?` — the value under a name, the view that all operations are described by.
* `Criteria.Table.insert`, `Criteria.Table.erase` — an entry added or replaced, and removed.

## Main results

* `Criteria.Table.get?_insert`, `Criteria.Table.get?_erase` — the operations through the view.
-/

set_option autoImplicit false
set_option relaxedAutoImplicit false

namespace Criteria

variable {α : Type}

/-- A finite map from names to values. -/
structure Table (α : Type) where
  /-- The entries, each a name and its value. -/
  entries : List (String × α)
  /-- No name has two entries. -/
  distinct : (entries.map Prod.fst).Nodup

namespace Table

/-- The table without entries. -/
def empty : Table α := ⟨[], List.nodup_nil⟩

/-- The names of a table. -/
def names (table : Table α) : List String := table.entries.map Prod.fst

/-- The number of entries. -/
def size (table : Table α) : Nat := table.entries.length

/-- The value of the first entry with a name. -/
def search? (name : String) : List (String × α) → Option α
  | [] => none
  | entry :: rest => if entry.1 = name then some entry.2 else search? name rest

/-- The value under a name. -/
def get? (table : Table α) (name : String) : Option α := search? name table.entries

/-- Replaces the value under a name where it stands, or adds an entry at the end. -/
def put (name : String) (value : α) : List (String × α) → List (String × α)
  | [] => [(name, value)]
  | entry :: rest =>
    if entry.1 = name then (name, value) :: rest else entry :: put name value rest

/-- The names after an entry was put. -/
theorem map_fst_put (name : String) (value : α) (entries : List (String × α)) :
    (put name value entries).map Prod.fst =
      if name ∈ entries.map Prod.fst then entries.map Prod.fst
      else entries.map Prod.fst ++ [name] := by
  induction entries with
  | nil => simp [put]
  | cons entry rest ih =>
    unfold put
    by_cases h : entry.1 = name
    · simp [h]
    · rw [if_neg h, List.map_cons, ih]
      have h' : name ≠ entry.1 := fun e => h e.symm
      by_cases hm : name ∈ rest.map Prod.fst <;> simp [hm, h']

/-- Putting an entry keeps the names distinct. -/
theorem nodup_put (name : String) (value : α) {entries : List (String × α)}
    (h : (entries.map Prod.fst).Nodup) : ((put name value entries).map Prod.fst).Nodup := by
  rw [map_fst_put]
  split
  · exact h
  · next hm =>
    rw [List.nodup_append]
    refine ⟨h, by simp, ?_⟩
    intro a ha b hb hab
    simp only [List.mem_singleton] at hb
    exact hm (hb ▸ hab ▸ ha)

/-- The table with a value under a name, which replaces the value that was there. -/
def insert (table : Table α) (name : String) (value : α) : Table α :=
  ⟨put name value table.entries, nodup_put name value table.distinct⟩

/-- The table without the entry of a name. -/
def erase (table : Table α) (name : String) : Table α :=
  ⟨table.entries.filter (·.1 != name), table.distinct.sublist (List.filter_sublist.map _)⟩

/-- The table of a list of entries, of which later ones replace earlier ones. -/
def ofList (entries : List (String × α)) : Table α :=
  entries.foldl (fun table entry => table.insert entry.1 entry.2) empty

/-! ## The operations through the view -/

@[simp] theorem get?_empty (name : String) : (empty : Table α).get? name = none := rfl

/-- Inserting changes the value under its own name and no other. -/
theorem get?_insert (table : Table α) (name other : String) (value : α) :
    (table.insert name value).get? other =
      if name = other then some value else table.get? other := by
  obtain ⟨entries, distinct⟩ := table
  simp only [get?, insert]
  clear distinct
  induction entries with
  | nil => simp [put, search?]
  | cons entry rest ih =>
    unfold put
    by_cases hk : entry.1 = name
    · by_cases h : name = other <;> simp [search?, hk, h]
    · rw [if_neg hk, search?, search?, ih]
      by_cases h : entry.1 = other
      · have hn : ¬name = other := fun e => hk (h.trans e.symm)
        simp [h, hn]
      · simp [h]

/-- What is found after inserting is what was inserted, or was found before. -/
theorem cases_get?_insert {table : Table α} {name other : String} {value found : α}
    (h : (table.insert name value).get? other = some found) :
    (other = name ∧ found = value) ∨ table.get? other = some found := by
  rw [get?_insert] at h
  split at h
  · next heq => exact .inl ⟨heq.symm, (Option.some.inj h).symm⟩
  · exact .inr h

/-- Erasing removes the value under its own name and no other. -/
theorem get?_erase (table : Table α) (name other : String) :
    (table.erase name).get? other = if name = other then none else table.get? other := by
  obtain ⟨entries, distinct⟩ := table
  simp only [get?, erase]
  clear distinct
  induction entries with
  | nil => simp [search?]
  | cons entry rest ih =>
    by_cases hk : entry.1 = name
    · rw [List.filter_cons_of_neg (by simp [hk]), ih]
      by_cases h : name = other <;> simp [search?, hk, h]
    · rw [List.filter_cons_of_pos (by simp [hk]), search?, search?, ih]
      by_cases h : entry.1 = other
      · have hn : ¬name = other := fun e => hk (h.trans e.symm)
        simp [h, hn]
      · simp [h]

/-- What is found after erasing was found before. -/
theorem get?_of_get?_erase {table : Table α} {name other : String} {found : α}
    (h : (table.erase name).get? other = some found) : table.get? other = some found := by
  rw [get?_erase] at h
  split at h
  · exact nomatch h
  · exact h

/-- A name has an entry if and only if it has a value. -/
theorem mem_names_iff (table : Table α) (name : String) :
    name ∈ table.names ↔ (table.get? name).isSome := by
  obtain ⟨entries, distinct⟩ := table
  simp only [names, get?]
  clear distinct
  induction entries with
  | nil => simp [search?]
  | cons entry rest ih =>
    by_cases h : entry.1 = name
    · simp [search?, h]
    · have h' : ¬name = entry.1 := fun e => h e.symm
      simp only [List.map_cons, List.mem_cons, h', false_or, search?, h, if_false, ih]

/-- The entries are the names with their values. -/
theorem mem_entries_iff (table : Table α) (name : String) (value : α) :
    (name, value) ∈ table.entries ↔ table.get? name = some value := by
  obtain ⟨entries, distinct⟩ := table
  simp only [get?]
  induction entries with
  | nil => simp [search?]
  | cons entry rest ih =>
    obtain ⟨hhead, htail⟩ := List.nodup_cons.mp distinct
    rw [List.mem_cons, ih htail, search?]
    by_cases h : entry.1 = name
    · have hrest : ¬search? name rest = some value := by
        intro hfound
        have hmem : (name, value) ∈ rest := (ih htail).mpr hfound
        exact hhead (h ▸ List.mem_map_of_mem hmem)
      simp [h, hrest, Prod.ext_iff, eq_comm]
    · have h' : ¬(name, value) = entry := fun e => h (e ▸ rfl)
      simp [h, h']

end Table

end Criteria

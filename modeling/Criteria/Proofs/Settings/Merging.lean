import Criteria.Settings.Layer

/-!
# What stands under a name after a change

A value is changed at one place, or merged with a later one. Here both are described by what stands
under each name afterwards.

## Main results

* `Criteria.Setting.lookup_updateKey` — a changed entry, and all others as they were.
* `Criteria.Setting.lookup_mergeEntries` — of merged entries the last one with a name counts.
* `Criteria.Setting.entries_updateAt` — a change at an address is a change under its first key.
-/

set_option autoImplicit false
set_option relaxedAutoImplicit false

namespace Criteria.Setting

variable {key name : String} {entries earlier : List (String × Setting)}

/-- Whether a value is a section. -/
def isTable : Setting → Bool
  | .table _ => true
  | _ => false

/-- A section is its entries. -/
theorem exists_of_isTable {setting : Setting} (h : setting.isTable = true) :
    ∃ entries, setting = .table entries := by
  cases setting with
  | table entries => exact ⟨entries, rfl⟩
  | nothing | bool | int | float | text | list => cases h

/-- A value that is no section takes the place of what was there. -/
theorem merge_of_not_isTable (earlier : Setting) {later : Setting} (h : later.isTable = false) :
    merge earlier later = later := by
  cases later with
  | table entries => cases h
  | nothing | bool | int | float | text | list => rfl

/-- The entries of a section are put over those that are there. -/
theorem merge_table (earlier : Setting) (entries : List (String × Setting)) :
    merge earlier (.table entries) = .table (mergeEntries earlier.entries entries) := rfl

/-- What stands under a name in entries, by the first of them. -/
theorem lookup_cons_eq (name other : String) (value : Setting) (rest : List (String × Setting)) :
    ((other, value) :: rest).lookup name =
      if name = other then some value else rest.lookup name := by
  by_cases h : name = other <;> simp [List.lookup_cons, h, beq_eq_false_iff_ne.2]

/-- **A change under a key** changes the value there, and leaves all others as they were. -/
theorem lookup_updateKey (change : Setting → Setting) :
    (updateKey key change entries).lookup name =
      if name = key then some (change ((entries.lookup key).getD .nothing))
      else entries.lookup name := by
  induction entries with
  | nil => exact lookup_cons_eq name key _ []
  | cons entry rest ih =>
    obtain ⟨other, value⟩ := entry
    unfold updateKey
    by_cases hother : other = key
    · subst hother
      rw [if_pos rfl, lookup_cons_eq, lookup_cons_eq, lookup_cons_eq, if_pos rfl]
      split <;> rfl
    · rw [if_neg hother, lookup_cons_eq, lookup_cons_eq, lookup_cons_eq, ih,
        if_neg (Ne.symm hother)]
      by_cases hname : name = other
      · have hchanged : name ≠ key := fun h => hother (hname.symm.trans h)
        rw [if_pos hname, if_neg hchanged, if_pos hname]
      · rw [if_neg hname, if_neg hname]

/-- **Of merged entries the last one with a name counts,** if it is no section; if there is none,
then what was there before. -/
theorem lookup_mergeEntries (h : ∀ value, (name, value) ∈ entries → value.isTable = false) :
    (mergeEntries earlier entries).lookup name =
      (entries.reverse.lookup name).or (earlier.lookup name) := by
  induction entries generalizing earlier with
  | nil => rfl
  | cons entry rest ih =>
    obtain ⟨other, value⟩ := entry
    have hrest : ∀ value, (name, value) ∈ rest → value.isTable = false := fun value hmem =>
      h value (List.mem_cons_of_mem _ hmem)
    rw [mergeEntries, ih hrest, List.reverse_cons, List.lookup_append, Option.or_assoc,
      lookup_updateKey, lookup_cons_eq]
    by_cases hname : name = other
    · subst hname
      rw [if_pos rfl, if_pos rfl, merge_of_not_isTable _ (h value (List.mem_cons_self ..))]
      rfl
    · rw [if_neg hname, if_neg hname]
      rfl

/-- **A change at an address is a change under its first key.** -/
theorem entries_updateAt (address : Address) (change : Setting → Setting) (settings : Setting) :
    settings.updateAt address change =
      .table (updateKey address.root (update change address.steps) settings.entries) := rfl

end Criteria.Setting

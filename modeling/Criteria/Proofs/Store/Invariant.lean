import Criteria.Proofs.Store.Reading
import Mathlib.Data.String.Basic

/-!
# What holds of every store

A store that is reached by its own operations keeps each rule under the id of the rule, keeps
valid rules only, knows the attributes of each, and has given every rule a version of its own.

## Main definitions

* `Criteria.Store.Sound` — the invariant.

## Main results

* `Criteria.Rule.mem_attributes_iff`, `Criteria.Rule.pairwise_attributes` — the attributes of a
  rule are those of its conditions, in order and without repetition.
* `Criteria.Store.save_eq` — what saving does, with both ways in which it fails.
* `Criteria.Store.sound_fresh`, `Criteria.Store.Sound.save`, `Criteria.Store.Sound.saveText`,
  `Criteria.Store.Sound.delete` — the invariant holds at the start and is kept.
-/

set_option autoImplicit false
set_option relaxedAutoImplicit false

namespace Criteria

/-! ## The attributes of a rule -/

namespace Rule

/-- The attributes are the names of the conditions. -/
theorem mem_attributes_iff {rule : Rule} {name : String} :
    name ∈ rule.attributes ↔ ∃ c ∈ rule.conditions, c.name = name := by
  -- The fold is described for every list of names that it starts from.
  have hfold : ∀ (conditions : List Condition) (names : List String),
      name ∈ conditions.foldl (fun names c => insertName c.name names) names ↔
        name ∈ names ∨ ∃ c ∈ conditions, c.name = name := by
    intro conditions
    induction conditions with
    | nil => simp
    | cons c rest ih =>
      intro names
      rw [List.foldl_cons, ih, mem_insertName, or_comm (a := name = c.name), or_assoc]
      simp [eq_comm]
  unfold attributes
  rw [hfold]
  simp

end Rule

/-- Inserting a name keeps the names in ascending order. -/
theorem pairwise_insertName (name : String) {names : List String}
    (h : names.Pairwise (· < ·)) : (insertName name names).Pairwise (· < ·) := by
  induction names with
  | nil => simp [insertName]
  | cons other rest ih =>
    obtain ⟨hhead, htail⟩ := List.pairwise_cons.mp h
    unfold insertName
    split
    · exact h
    · next hne =>
      split
      · next hlt =>
        refine List.pairwise_cons.mpr ⟨?_, h⟩
        intro a ha
        rcases List.mem_cons.mp ha with rfl | ha
        · exact hlt
        · exact hlt.trans (hhead a ha)
      · next hlt =>
        have hgt : other < name := lt_of_le_of_ne (not_lt.mp hlt) (Ne.symm hne)
        refine List.pairwise_cons.mpr ⟨?_, ih htail⟩
        intro a ha
        rcases mem_insertName.mp ha with rfl | ha
        · exact hgt
        · exact hhead a ha

/-- The attributes of a rule are in ascending order, so that none is there twice. -/
theorem Rule.pairwise_attributes (rule : Rule) : rule.attributes.Pairwise (· < ·) := by
  have hfold : ∀ (conditions : List Condition) (names : List String),
      names.Pairwise (· < ·) →
        (conditions.foldl (fun names c => insertName c.name names) names).Pairwise (· < ·) := by
    intro conditions
    induction conditions with
    | nil => exact fun _ h => h
    | cons c rest ih => exact fun names h => ih _ (pairwise_insertName c.name h)
  exact hfold rule.conditions [] List.Pairwise.nil

namespace Store

/-! ## Saving -/

/-- Saving fails without an id, fails with the issues of a rule that is not valid, and otherwise
puts the definition under its id with the next version. -/
theorem save_eq (store : Store) (definition : Definition) :
    store.save definition =
      if definition.id = "" then .error (.invalidArgument "规则 ID 不能为空")
      else if definition.rule.issues ≠ [] then .error (.invalidTree definition.rule.issues)
      else .ok (definition.id,
        ⟨store.rules.insert definition.id
          ⟨definition, definition.rule.attributes, store.compiler.version + 1⟩,
          ⟨store.compiler.version + 1⟩⟩) := by
  by_cases hid : definition.id = ""
  · simp only [save, compile, Compiler.compile, if_pos hid, Except.map]
  · by_cases hissues : definition.rule.issues = []
    · rw [if_neg hid, if_neg (not_not.mpr hissues)]
      unfold save compile
      rw [store.compiler.compile_of_issues hid hissues]
      rfl
    · rw [if_neg hid, if_pos hissues]
      simp only [save, compile, Compiler.compile, if_neg hid, Except.map]

/-- Saving a text is reading it and saving its rule, which is valid. -/
theorem saveText_eq (store : Store) (id name createdAt text : String) :
    store.saveText id name createdAt text =
      match Rule.ofText text with
      | .error fault => .error fault
      | .ok rule => store.save ⟨id, name, rule, createdAt⟩ := by
  unfold saveText
  cases Rule.ofText text <;> rfl

/-! ## The invariant -/

/-- What holds of a store in every state that its operations lead to. -/
structure Sound (store : Store) : Prop where
  /-- Every rule is kept under its own id. -/
  keyed : ∀ {id : String} {compiled : Compiled},
    store.rules.get? id = some compiled → compiled.definition.id = id
  /-- No rule is kept under the empty id. -/
  named : store.rules.get? "" = none
  /-- Every rule is valid. -/
  valid : ∀ {id : String} {compiled : Compiled},
    store.rules.get? id = some compiled → compiled.definition.rule.issues = []
  /-- The attributes that are kept with a rule are the attributes of its conditions. -/
  attributes : ∀ {id : String} {compiled : Compiled}, store.rules.get? id = some compiled →
    compiled.attributes = compiled.definition.rule.attributes
  /-- Versions start at one and do not exceed what was compiled. -/
  version_le : ∀ {id : String} {compiled : Compiled}, store.rules.get? id = some compiled →
    1 ≤ compiled.version ∧ compiled.version ≤ store.compiler.version
  /-- No version is given twice. -/
  distinct : ∀ {id other : String} {compiled compiled' : Compiled},
    store.rules.get? id = some compiled → store.rules.get? other = some compiled' →
      compiled.version = compiled'.version → id = other

/-- Nothing is wrong with a store without rules. -/
theorem sound_fresh : fresh.Sound := by
  have hnone : ∀ (id : String) (compiled : Compiled),
      ¬fresh.rules.get? id = some compiled := by
    intro id compiled h
    simp [fresh] at h
  exact
    { keyed := fun h => absurd h (hnone _ _)
      named := rfl
      valid := fun h => absurd h (hnone _ _)
      attributes := fun h => absurd h (hnone _ _)
      version_le := fun h => absurd h (hnone _ _)
      distinct := fun h => absurd h (hnone _ _) }

namespace Sound

variable {store : Store}

/-- Putting a valid rule under its id with the next version keeps a store sound. -/
theorem insert (hs : store.Sound) {definition : Definition} (hid : definition.id ≠ "")
    (hissues : definition.rule.issues = []) :
    Store.Sound ⟨store.rules.insert definition.id
      ⟨definition, definition.rule.attributes, store.compiler.version + 1⟩,
      ⟨store.compiler.version + 1⟩⟩ := by
  refine
    { keyed := ?keyed
      named := ?named
      valid := ?valid
      attributes := ?attributes
      version_le := ?version_le
      distinct := ?distinct }
  case keyed =>
    intro id compiled h
    rcases Table.cases_get?_insert h with ⟨rfl, rfl⟩ | h
    · rfl
    · exact hs.keyed h
  case named =>
    show (store.rules.insert definition.id _).get? "" = none
    rw [Table.get?_insert, if_neg hid]
    exact hs.named
  case valid =>
    intro id compiled h
    rcases Table.cases_get?_insert h with ⟨rfl, rfl⟩ | h
    · exact hissues
    · exact hs.valid h
  case attributes =>
    intro id compiled h
    rcases Table.cases_get?_insert h with ⟨rfl, rfl⟩ | h
    · rfl
    · exact hs.attributes h
  case version_le =>
    intro id compiled h
    show 1 ≤ compiled.version ∧ compiled.version ≤ store.compiler.version + 1
    rcases Table.cases_get?_insert h with ⟨rfl, rfl⟩ | h
    · exact ⟨Nat.le_add_left 1 _, le_rfl⟩
    · obtain ⟨hlow, hhigh⟩ := hs.version_le h
      exact ⟨hlow, by omega⟩
  case distinct =>
    intro id other compiled compiled' h h' heq
    rcases Table.cases_get?_insert h with ⟨rfl, rfl⟩ | h <;>
      rcases Table.cases_get?_insert h' with ⟨rfl, rfl⟩ | h'
    · rfl
    · -- A rule that was there before has a smaller version than the new one.
      have hle := (hs.version_le h').2
      have heq' : store.compiler.version + 1 = compiled'.version := heq
      omega
    · have hle := (hs.version_le h).2
      have heq' : compiled.version = store.compiler.version + 1 := heq
      omega
    · exact hs.distinct h h' heq

/-- Saving keeps a store sound. -/
theorem save (hs : store.Sound) {definition : Definition} {id : String} {store' : Store}
    (h : store.save definition = .ok (id, store')) : store'.Sound := by
  rw [save_eq] at h
  split at h
  · exact nomatch h
  · next hid =>
    split at h
    · exact nomatch h
    · next hissues =>
      cases h
      exact hs.insert hid (not_not.mp hissues)

/-- Saving a text keeps a store sound. -/
theorem saveText (hs : store.Sound) {id name createdAt text saved : String} {store' : Store}
    (h : store.saveText id name createdAt text = .ok (saved, store')) : store'.Sound := by
  rw [saveText_eq] at h
  split at h
  · exact nomatch h
  · exact hs.save h

/-- Removing a rule keeps a store sound. -/
theorem delete (hs : store.Sound) {id : String} {store' : Store}
    (h : store.delete id = .ok store') : store'.Sound := by
  unfold Store.delete at h
  split at h
  · cases h
    exact
      { keyed := fun h => hs.keyed (Table.get?_of_get?_erase h)
        named := by
          show (store.rules.erase id).get? "" = none
          rw [Table.get?_erase, hs.named, ite_self]
        valid := fun h => hs.valid (Table.get?_of_get?_erase h)
        attributes := fun h => hs.attributes (Table.get?_of_get?_erase h)
        version_le := fun h => hs.version_le (Table.get?_of_get?_erase h)
        distinct := fun h h' =>
          hs.distinct (Table.get?_of_get?_erase h) (Table.get?_of_get?_erase h') }
  · exact nomatch h

end Sound

end Store

end Criteria

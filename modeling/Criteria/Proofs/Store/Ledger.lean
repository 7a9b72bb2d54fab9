import Criteria.Proofs.Store.Invariant
import Mathlib.Algebra.GroupWithZero.Nat
import Mathlib.Data.List.Induction

/-!
# The store as a ledger

Seen from outside, the store is a finite map from ids to versioned rules, with a counter of the
entries that were made. Every sequence of operations on a store has the results that the ledger
allows, in particular for the operations that fail.

## Main definitions

* `Criteria.Ledger` — a map from ids to entries, and a counter.
* `Criteria.Ledger.Operation`, `Criteria.Ledger.Result` — what is asked and what is answered.
* `Criteria.Ledger.Step` — what a ledger answers to an operation, and what becomes of it.
* `Criteria.Ledger.Run` — the sequences of steps from the empty ledger.
* `Criteria.Ledger.succeeded` — the operations that did not fail, with their results.
* `Criteria.Store.ledger` — what the ledger of a store is.

## Main results

* `Criteria.Ledger.Step.eq_of_failed`, `Criteria.Ledger.Run.succeeded` — an operation that fails
  changes nothing, and a run without such operations leads to the same ledger.
* `Criteria.Store.step_perform` — one operation on a store is a step of its ledger.
* `Criteria.Store.refines_ledger` — so is every sequence of operations, and the store is sound
  after it.

## Implementation notes

The ids of texts are drawn by the caller of `Criteria.Store.saveText`, so that a drawn id is part
of the operation. `Criteria.Ledger.DrawsFresh` says of a sequence of operations that no drawn id
is empty and none was used before.
-/

set_option autoImplicit false
set_option relaxedAutoImplicit false

namespace Criteria

/-! ## Ledgers -/

/-- What a ledger has under an id. -/
structure Ledger.Entry where
  /-- What the rule is called. -/
  name : String
  /-- The rule. -/
  rule : Rule
  /-- When it was made, as it was told. -/
  createdAt : String
  /-- The number of the entry, from one on. -/
  version : Nat

/-- A map from ids to entries, with the number of entries that were ever made. -/
structure Ledger where
  /-- The entry under an id. -/
  find? : String → Option Ledger.Entry
  /-- How many entries were made. -/
  counter : Nat

namespace Ledger

/-- The ledger without entries. -/
def empty : Ledger := ⟨fun _ => none, 0⟩

/-- The ledger with a definition entered under its id, in place of the entry that was there. -/
def enter (ledger : Ledger) (definition : Definition) : Ledger where
  find? id :=
    if definition.id = id then
      some ⟨definition.name, definition.rule, definition.createdAt, ledger.counter + 1⟩
    else ledger.find? id
  counter := ledger.counter + 1

/-- The ledger without the entry under an id. -/
def strike (ledger : Ledger) (id : String) : Ledger where
  find? other := if id = other then none else ledger.find? other
  counter := ledger.counter

/-- What is loaded from an entry under an id. -/
def Entry.compiled (entry : Entry) (id : String) : Compiled :=
  ⟨⟨id, entry.name, entry.rule, entry.createdAt⟩, entry.rule.attributes, entry.version⟩

/-- A list of the entries of a ledger with their ids, each of them once. -/
structure Lists (ledger : Ledger) (entries : List (String × Entry)) : Prop where
  /-- No id is there twice. -/
  nodup : (entries.map Prod.fst).Nodup
  /-- The list has the entries of the ledger. -/
  mem_iff : ∀ (id : String) (entry : Entry), (id, entry) ∈ entries ↔ ledger.find? id = some entry

/-- Figures that are those of a list of rules. -/
structure Figures (rules : List Rule) (figures : Statistics) : Prop where
  /-- The number of the rules. -/
  count : figures.rules = rules.length
  /-- The number of conditions they have together. -/
  conditions : figures.conditions = (rules.map Rule.conditionCount).sum
  /-- The depth of the deepest, zero without rules. -/
  maxDepth : ∀ bound : Nat, figures.maxDepth ≤ bound ↔ ∀ rule ∈ rules, rule.depth ≤ bound
  /-- The quotient of the first two, zero without rules. -/
  average : figures.average =
    if rules = [] then .zero else .quotient figures.conditions figures.rules

/-! ## Operations -/

/-- What a ledger is asked to do. -/
inductive Operation where
  /-- Save a definition. -/
  | save (definition : Definition)
  /-- Save the rule that a text is, under an id that was drawn for it. -/
  | saveText (id name createdAt text : String)
  /-- Load the rule under an id. -/
  | load (id : String)
  /-- Remove the rule under an id. -/
  | delete (id : String)
  /-- List the ids. -/
  | list
  /-- Count the rules. -/
  | size
  /-- Take the figures. -/
  | statistics

/-- The id that an operation saves under. -/
def Operation.id? : Operation → Option String
  | .save definition => some definition.id
  | .saveText id _ _ _ => some id
  | _ => none

/-- The id that is drawn for an operation. -/
def Operation.drawn? : Operation → Option String
  | .saveText id _ _ _ => some id
  | _ => none

/-- No drawn id is empty, and none was saved under before it was drawn. -/
structure DrawsFresh (operations : List Operation) : Prop where
  /-- No drawn id is empty. -/
  named : ∀ operation ∈ operations, operation.drawn? ≠ some ""
  /-- No drawn id was used earlier. -/
  fresh : operations.Pairwise fun earlier later =>
    ∀ id, later.drawn? = some id → earlier.id? ≠ some id

/-- What a ledger answers. -/
inductive Result where
  /-- A rule was saved under this id. -/
  | saved (id : String)
  /-- The rule that was loaded. -/
  | loaded (compiled : Compiled)
  /-- A rule was removed. -/
  | deleted
  /-- The ids. -/
  | listed (ids : List String)
  /-- The number of rules. -/
  | counted (number : Nat)
  /-- The figures. -/
  | figures (figures : Statistics)
  /-- The operation failed. -/
  | failed (fault : Fault)

/-- Whether the operation failed. -/
def Result.isFailed : Result → Bool
  | .failed _ => true
  | _ => false

/-- Whether a rule was saved. -/
def Result.isSaved : Result → Bool
  | .saved _ => true
  | _ => false

/-- What a ledger answers to an operation, and what becomes of it. -/
inductive Step (ledger : Ledger) : Operation → Result → Ledger → Prop
  | saveUnnamed {definition : Definition} (hid : definition.id = "") :
    Step ledger (.save definition) (.failed (.invalidArgument "规则 ID 不能为空")) ledger
  | saveInvalid {definition : Definition} (hid : definition.id ≠ "")
      (hissues : definition.rule.issues ≠ []) :
    Step ledger (.save definition) (.failed (.invalidTree definition.rule.issues)) ledger
  | save {definition : Definition} (hid : definition.id ≠ "")
      (hissues : definition.rule.issues = []) :
    Step ledger (.save definition) (.saved definition.id) (ledger.enter definition)
  | saveNoRule {id name createdAt text : String} {fault : Fault}
      (hread : Rule.ofText text = .error fault) :
    Step ledger (.saveText id name createdAt text) (.failed fault) ledger
  | saveText {id name createdAt text : String} {rule : Rule}
      (hread : Rule.ofText text = .ok rule) (hnew : ledger.find? id = none) :
    Step ledger (.saveText id name createdAt text) (.saved id)
      (ledger.enter ⟨id, name, rule, createdAt⟩)
  | loadMissing {id : String} (hnone : ledger.find? id = none) :
    Step ledger (.load id) (.failed (.ruleNotFound id)) ledger
  | load {id : String} {entry : Entry} (hsome : ledger.find? id = some entry) :
    Step ledger (.load id) (.loaded (entry.compiled id)) ledger
  | deleteMissing {id : String} (hnone : ledger.find? id = none) :
    Step ledger (.delete id) (.failed (.ruleNotFound id)) ledger
  | delete {id : String} {entry : Entry} (hsome : ledger.find? id = some entry) :
    Step ledger (.delete id) .deleted (ledger.strike id)
  | list {entries : List (String × Entry)} (hlists : ledger.Lists entries) :
    Step ledger .list (.listed (entries.map Prod.fst)) ledger
  | size {entries : List (String × Entry)} (hlists : ledger.Lists entries) :
    Step ledger .size (.counted entries.length) ledger
  | statistics {entries : List (String × Entry)} {figures : Statistics}
      (hlists : ledger.Lists entries)
      (hfigures : Figures (entries.map fun entry => entry.2.rule) figures) :
    Step ledger .statistics (.figures figures) ledger

/-- The sequences of steps from the empty ledger. -/
inductive Run : List Operation → List Result → Ledger → Prop
  | nil : Run [] [] empty
  | snoc {operations : List Operation} {results : List Result} {ledger next : Ledger}
      {operation : Operation} {result : Result} (hrun : Run operations results ledger)
      (hstep : ledger.Step operation result next) :
    Run (operations ++ [operation]) (results ++ [result]) next

/-- An operation that fails leaves the ledger as it was. -/
theorem Step.eq_of_failed {ledger next : Ledger} {operation : Operation} {fault : Fault}
    (h : ledger.Step operation (.failed fault) next) : next = ledger := by
  cases h <;> rfl

/-- The counter goes up by one when a rule is saved, and stays as it is otherwise. -/
theorem Step.counter_eq {ledger next : Ledger} {operation : Operation} {result : Result}
    (h : ledger.Step operation result next) :
    next.counter = ledger.counter + if result.isSaved then 1 else 0 := by
  cases h <;> rfl

/-- What is under an id after a step was there before, or was saved by the step. -/
theorem Step.entered {ledger next : Ledger} {operation : Operation} {result : Result}
    (h : ledger.Step operation result next) {id : String} (hsome : next.find? id ≠ none) :
    ledger.find? id ≠ none ∨ operation.id? = some id := by
  cases h with
  | @save definition hid hissues =>
    by_cases heq : definition.id = id
    · exact .inr (congrArg some heq)
    · exact .inl (by simpa [enter, heq] using hsome)
  | @saveText drawn name createdAt text rule hread hnew =>
    by_cases heq : drawn = id
    · exact .inr (congrArg some heq)
    · exact .inl (by simpa [enter, heq] using hsome)
  | @delete struck entry hfound =>
    by_cases heq : struck = id
    · simp [strike, heq] at hsome
    · exact .inl (by simpa [strike, heq] using hsome)
  | _ => exact .inl hsome

/-- What is under an id after a run was saved under it by one of the operations. -/
theorem Run.entered {operations : List Operation} {results : List Result} {ledger : Ledger}
    (h : Run operations results ledger) {id : String} (hsome : ledger.find? id ≠ none) :
    ∃ operation ∈ operations, operation.id? = some id := by
  induction h with
  | nil => exact absurd rfl hsome
  | snoc hrun hstep ih =>
    rcases hstep.entered hsome with hbefore | hlast
    · obtain ⟨operation, hmem, hid⟩ := ih hbefore
      exact ⟨operation, List.mem_append_left _ hmem, hid⟩
    · exact ⟨_, List.mem_append_right _ (List.mem_singleton_self _), hlast⟩

/-- The counter is the number of rules that were saved. -/
theorem Run.counter_eq {operations : List Operation} {results : List Result} {ledger : Ledger}
    (h : Run operations results ledger) : ledger.counter = results.countP Result.isSaved := by
  induction h with
  | nil => rfl
  | snoc hrun hstep ih =>
    rw [hstep.counter_eq, ih, List.countP_append, List.countP_singleton]

/-- There is one result for each operation. -/
theorem Run.length_eq {operations : List Operation} {results : List Result} {ledger : Ledger}
    (h : Run operations results ledger) : operations.length = results.length := by
  induction h with
  | nil => rfl
  | snoc hrun hstep ih =>
    rw [List.length_append, List.length_append, ih]
    rfl

/-- The operations that did not fail, with their results. -/
def succeeded (operations : List Operation) (results : List Result) :
    List (Operation × Result) :=
  (operations.zip results).filter fun answered => !answered.2.isFailed

/-- The last operation is left out if it failed, and is kept otherwise. -/
theorem succeeded_snoc {operations : List Operation} {results : List Result}
    (hlength : operations.length = results.length) (operation : Operation) (result : Result) :
    succeeded (operations ++ [operation]) (results ++ [result]) =
      succeeded operations results ++ if result.isFailed then [] else [(operation, result)] := by
  unfold succeeded
  rw [List.zip_append hlength, List.filter_append]
  cases hfailed : result.isFailed <;> simp [hfailed]

/-- **Operations that fail may as well be left out:** those that did not fail have the same results
without them, and lead to the same ledger. -/
theorem Run.succeeded {operations : List Operation} {results : List Result} {ledger : Ledger}
    (h : Run operations results ledger) :
    Run ((succeeded operations results).map Prod.fst) ((succeeded operations results).map Prod.snd)
      ledger := by
  induction h with
  | nil => exact .nil
  | @snoc operations results ledger next operation result hrun hstep ih =>
    rw [succeeded_snoc hrun.length_eq]
    cases result with
    | failed fault =>
      obtain rfl := hstep.eq_of_failed
      simpa [Result.isFailed] using ih
    | _ => simpa [Result.isFailed] using ih.snoc hstep

end Ledger

/-! ## The ledger of a store -/

namespace Store

open Ledger (Operation Result Figures)

/-- The entry that a compiled rule is. -/
def entry (compiled : Compiled) : Ledger.Entry :=
  ⟨compiled.definition.name, compiled.definition.rule, compiled.definition.createdAt,
    compiled.version⟩

/-- The ledger of a store. -/
def ledger (store : Store) : Ledger where
  find? id := (store.rules.get? id).map entry
  counter := store.compiler.version

/-- The entries of a store with their ids. -/
def listing (store : Store) : List (String × Ledger.Entry) :=
  store.rules.entries.map fun (id, compiled) => (id, entry compiled)

/-- What an operation on a store comes to. A failed operation leaves the store as it was. -/
def settle {α : Type} (store : Store) (result : α → Result) :
    Except Fault (α × Store) → Result × Store
  | .ok (value, store') => (result value, store')
  | .error fault => (.failed fault, store)

/-- What holds of a store, and of the store after an operation that succeeds, holds of the store
after the operation. -/
theorem settle_kept {α : Type} {store : Store} {result : α → Result} {P : Store → Prop}
    {outcome : Except Fault (α × Store)} (h : P store)
    (hok : ∀ value next, outcome = .ok (value, next) → P next) :
    P (store.settle result outcome).2 := by
  cases outcome with
  | error fault => exact h
  | ok saved => exact hok saved.1 saved.2 rfl

/-- An operation on a store. -/
def perform (store : Store) : Operation → Result × Store
  | .save definition => store.settle .saved (store.save definition)
  | .saveText id name createdAt text =>
    store.settle .saved (store.saveText id name createdAt text)
  | .load id => store.settle .loaded ((store.load id).map fun compiled => (compiled, store))
  | .delete id => store.settle (fun () => .deleted) ((store.delete id).map fun next => ((), next))
  | .list => (.listed store.ids, store)
  | .size => (.counted store.size, store)
  | .statistics => (.figures store.statistics, store)

/-- The results of a sequence of operations on a fresh store, and the store after them. -/
def transcript (operations : List Operation) : List Result × Store :=
  operations.foldl (fun (results, store) operation =>
    let (result, next) := store.perform operation
    (results ++ [result], next)) ([], .fresh)

theorem transcript_snoc (operations : List Operation) (operation : Operation) :
    transcript (operations ++ [operation]) =
      ((transcript operations).1 ++ [((transcript operations).2.perform operation).1],
        ((transcript operations).2.perform operation).2) := by
  unfold transcript
  rw [List.foldl_append, List.foldl_cons, List.foldl_nil]

/-! ## Every operation is a step -/

variable {store : Store}

/-- Putting a rule under its id enters its definition. -/
theorem ledger_insert (definition : Definition) :
    ledger ⟨store.rules.insert definition.id
      ⟨definition, definition.rule.attributes, store.compiler.version + 1⟩,
      ⟨store.compiler.version + 1⟩⟩ = store.ledger.enter definition := by
  have hentry : ∀ id, ((store.rules.insert definition.id
      ⟨definition, definition.rule.attributes, store.compiler.version + 1⟩).get? id).map entry =
        (store.ledger.enter definition).find? id := by
    intro id
    rw [Table.get?_insert, apply_ite (Option.map entry)]
    rfl
  unfold ledger
  rw [funext hentry]
  rfl

/-- Removing a rule strikes its entry. -/
theorem ledger_erase (id : String) :
    ledger { store with rules := store.rules.erase id } = store.ledger.strike id := by
  have hentry : ∀ other, ((store.rules.erase id).get? other).map entry =
      (store.ledger.strike id).find? other := by
    intro other
    rw [Table.get?_erase, apply_ite (Option.map entry)]
    rfl
  unfold ledger
  rw [funext hentry]
  rfl

/-- The entries of a store are those of its ledger. -/
theorem lists_listing (store : Store) : store.ledger.Lists store.listing where
  nodup := by
    have hnames : store.listing.map Prod.fst = store.rules.entries.map Prod.fst := by
      simp [listing, Function.comp_def]
    rw [hnames]
    exact store.rules.distinct
  mem_iff id found := by
    simp [listing, ledger, ← Table.mem_entries_iff]

/-- The figures of a store are those of the rules of its ledger. -/
theorem figures_statistics (store : Store) :
    Figures (store.listing.map fun entry => entry.2.rule) store.statistics := by
  have hrules : store.listing.map (fun entry => entry.2.rule) =
      store.rules.entries.map fun entry => entry.2.definition.rule := by
    simp [listing, entry, Function.comp_def]
  have hsum : ∀ rules : List Rule,
      rules.foldr (fun rule count => rule.conditionCount + count) 0 =
        (rules.map Rule.conditionCount).sum := by
    intro rules
    induction rules with
    | nil => rfl
    | cons rule rest ih => rw [List.foldr_cons, ih, List.map_cons, List.sum_cons]
  -- The fold of the depths is described for every depth that it starts from.
  have hmax : ∀ (rules : List Rule) (start bound : Nat),
      rules.foldl (fun depth rule => max depth rule.depth) start ≤ bound ↔
        start ≤ bound ∧ ∀ rule ∈ rules, rule.depth ≤ bound := by
    intro rules
    induction rules with
    | nil => simp
    | cons rule rest ih =>
      intro start bound
      rw [List.foldl_cons, ih]
      simp [and_assoc]
  rw [hrules]
  refine ⟨rfl, hsum _, ?_, ?_⟩
  · intro bound
    exact (hmax _ 0 bound).trans (and_iff_right (Nat.zero_le bound))
  · show (if _ = 0 then Number.zero else _) = if _ = [] then Number.zero else _
    simp only [List.length_eq_zero_iff]
    rfl

namespace Sound

/-- What is loaded is what the entry under the id says. -/
theorem compiled_entry (hs : store.Sound) {id : String} {compiled : Compiled}
    (h : store.rules.get? id = some compiled) : (entry compiled).compiled id = compiled := by
  have hkey : compiled.definition.id = id := hs.keyed h
  have hattributes : compiled.attributes = compiled.definition.rule.attributes :=
    hs.attributes h
  unfold Ledger.Entry.compiled entry
  rw [← hkey, ← hattributes]

/-- Operations keep a store sound. -/
theorem perform (hs : store.Sound) (operation : Operation) :
    (store.perform operation).2.Sound := by
  cases operation with
  | save definition => exact settle_kept hs fun _ _ hsave => hs.save hsave
  | saveText id name createdAt text => exact settle_kept hs fun _ _ hsave => hs.saveText hsave
  | load id =>
    refine settle_kept hs fun compiled next hload => ?_
    cases hfound : store.load id with
    | error fault => rw [hfound] at hload; exact nomatch hload
    | ok found => rw [hfound] at hload; cases hload; exact hs
  | delete id =>
    refine settle_kept hs fun _ next hdelete => ?_
    cases hfound : store.delete id with
    | error fault => rw [hfound] at hdelete; exact nomatch hdelete
    | ok found => rw [hfound] at hdelete; cases hdelete; exact hs.delete hfound
  | list => exact hs
  | size => exact hs
  | statistics => exact hs

end Sound

/-- Saving a definition is a step of the ledger. -/
theorem step_save (store : Store) (definition : Definition) :
    store.ledger.Step (.save definition) (store.perform (.save definition)).1
      (store.perform (.save definition)).2.ledger := by
  rw [perform, save_eq]
  by_cases hid : definition.id = ""
  · rw [if_pos hid]
    exact .saveUnnamed hid
  · rw [if_neg hid]
    by_cases hissues : definition.rule.issues = []
    · rw [if_neg (not_not.mpr hissues)]
      show store.ledger.Step _ _ (ledger ⟨_, _⟩)
      rw [ledger_insert]
      exact .save hid hissues
    · rw [if_pos hissues]
      exact .saveInvalid hid hissues

/-- Saving a text under an id that is new is a step of the ledger. -/
theorem step_saveText (store : Store) {id : String} (name createdAt text : String)
    (hid : id ≠ "") (hnew : store.rules.get? id = none) :
    store.ledger.Step (.saveText id name createdAt text)
      (store.perform (.saveText id name createdAt text)).1
      (store.perform (.saveText id name createdAt text)).2.ledger := by
  rw [perform, saveText_eq]
  cases hread : Rule.ofText text with
  | error fault => exact .saveNoRule hread
  | ok rule =>
    have hissues : rule.issues = [] := Rule.issues_of_ofText hread
    dsimp only
    rw [save_eq, if_neg hid, if_neg (not_not.mpr hissues)]
    show store.ledger.Step _ _ (ledger ⟨_, _⟩)
    rw [ledger_insert ⟨id, name, rule, createdAt⟩]
    refine .saveText hread ?_
    show (store.rules.get? id).map entry = none
    rw [hnew]
    rfl

/-- One operation on a store is a step of its ledger, as long as a drawn id is new. -/
theorem step_perform (hs : store.Sound) {operation : Operation}
    (hnew : ∀ id, operation.drawn? = some id → id ≠ "" ∧ store.rules.get? id = none) :
    store.ledger.Step operation (store.perform operation).1
      (store.perform operation).2.ledger := by
  -- Loading and removing start by looking for the rule under the id.
  have hentry : ∀ id, store.ledger.find? id = (store.rules.get? id).map entry := fun _ => rfl
  cases operation with
  | save definition => exact store.step_save definition
  | saveText id name createdAt text =>
    obtain ⟨hid, hnone⟩ := hnew id rfl
    exact store.step_saveText name createdAt text hid hnone
  | load id =>
    rw [perform, load]
    cases hfound : store.rules.get? id with
    | none => exact .loadMissing (by rw [hentry, hfound]; rfl)
    | some compiled =>
      show store.ledger.Step _ (.loaded compiled) store.ledger
      rw [← hs.compiled_entry hfound]
      exact .load (by rw [hentry, hfound]; rfl)
  | delete id =>
    rw [perform, delete]
    cases hfound : store.rules.get? id with
    | none => exact .deleteMissing (by rw [hentry, hfound]; rfl)
    | some compiled =>
      have hsome : store.ledger.find? id = some (entry compiled) := by rw [hentry, hfound]; rfl
      show store.ledger.Step _ _ (ledger { store with rules := store.rules.erase id })
      rw [ledger_erase]
      exact .delete hsome
  | list =>
    have hids : store.ids = store.listing.map Prod.fst := by
      simp [ids, Table.names, listing, Function.comp_def]
    show store.ledger.Step .list (.listed store.ids) store.ledger
    rw [hids]
    exact .list store.lists_listing
  | size =>
    have hsize : store.size = store.listing.length := by simp [size, Table.size, listing]
    show store.ledger.Step .size (.counted store.size) store.ledger
    rw [hsize]
    exact .size store.lists_listing
  | statistics => exact .statistics store.lists_listing store.figures_statistics

/-! ## Every sequence of operations is a run -/

/-- **The store is a ledger.** Every sequence of operations on a fresh store has results that the
ledger allows from its empty state on, and the store that it leads to is sound: each rule is kept
under its own id, is valid, comes with its attributes, and has a version that no other has. The
compiler has counted the rules that were saved, and the figures are those of the ledger.

**Proof sketch.** Induction on the operations from their end. The operations before the last one
lead to a sound store, whose ledger is that of a run; an id that has an entry in it was saved
under by one of these operations. So the id that the last one may draw is new, and the last
operation is a step of the ledger. -/
theorem refines_ledger {operations : List Operation} (h : Ledger.DrawsFresh operations) :
    Ledger.Run operations (transcript operations).1 (transcript operations).2.ledger ∧
    (transcript operations).2.Sound ∧
    (∀ id compiled, (transcript operations).2.rules.get? id = some compiled → ∀ name,
      name ∈ compiled.attributes ↔ ∃ c ∈ compiled.definition.rule.conditions, c.name = name) ∧
    (transcript operations).2.compiler.version =
      (transcript operations).1.countP Result.isSaved ∧
    ∃ entries, (transcript operations).2.ledger.Lists entries ∧
      Figures (entries.map fun entry => entry.2.rule) (transcript operations).2.statistics := by
  have hrun : Ledger.Run operations (transcript operations).1 (transcript operations).2.ledger ∧
      (transcript operations).2.Sound := by
    induction operations using List.reverseRecOn with
    | nil => exact ⟨.nil, sound_fresh⟩
    | append_singleton operations operation ih =>
      obtain ⟨hbefore, -, hacross⟩ := List.pairwise_append.mp h.fresh
      obtain ⟨hrun, hs⟩ := ih ⟨fun earlier hmem =>
        h.named earlier (List.mem_append_left _ hmem), hbefore⟩
      have hlast : operation ∈ operations ++ [operation] := by simp
      have hnew : ∀ id, operation.drawn? = some id →
          id ≠ "" ∧ (transcript operations).2.rules.get? id = none := by
        intro id hdrawn
        refine ⟨fun hempty => h.named operation hlast (hempty ▸ hdrawn), ?_⟩
        by_contra hfound
        have hentry : (transcript operations).2.ledger.find? id ≠ none := by
          simpa [ledger] using hfound
        obtain ⟨earlier, hmem, hid⟩ := hrun.entered hentry
        exact hacross earlier hmem operation (List.mem_singleton_self _) id hdrawn hid
      rw [transcript_snoc]
      exact ⟨hrun.snoc (step_perform hs hnew), hs.perform operation⟩
  obtain ⟨hrun, hs⟩ := hrun
  refine ⟨hrun, hs, ?_, hrun.counter_eq, _, lists_listing _, figures_statistics _⟩
  intro id compiled hfound name
  rw [hs.attributes hfound]
  exact Rule.mem_attributes_iff

/-- Two rules are saved, one of them a second time, and a save without an id fails in between:
three rules were saved. -/
theorem refines_ledger_resaved :
    let operations : List Operation :=
      [.saveText "1" "first" "now" "a = b AND c = d",
        .save ⟨"2", "second", .condition ⟨"e", .ne, .bool true⟩, "now"⟩,
        .save ⟨"", "third", .condition ⟨"e", .ne, .bool true⟩, "now"⟩,
        .save ⟨"1", "fourth", .condition ⟨"f", .eq, .string "g"⟩, "later"⟩, .statistics]
    Ledger.DrawsFresh operations ∧ (transcript operations).2.compiler.version = 3 ∧
      Ledger.Run operations (transcript operations).1 (transcript operations).2.ledger ∧
      (transcript operations).2.Sound := by
  intro operations
  have hfresh : Ledger.DrawsFresh operations :=
    ⟨by simp [operations, Operation.drawn?],
      by simp [operations, Operation.drawn?, Operation.id?]⟩
  obtain ⟨hrun, hsound, -⟩ := refines_ledger hfresh
  exact ⟨hfresh, rfl, hrun, hsound⟩

end Store

end Criteria

import Criteria.Proofs.Store.Reading
import Mathlib.Data.List.Induction

/-!
# Callers who save at the same time

Saving is two steps: a definition is compiled, which stamps it with the next version, and then it
takes the place under its id. Callers who save at the same time take turns, and each turn is one of
these steps. Whatever their order, the store and the saves under way agree with what has been
compiled and what has been inserted.

## Main definitions

* `Criteria.Definition.IsSavable` — the definitions that can be saved.
* `Criteria.Saving` — how far a caller has got with saving a definition.
* `Criteria.SharedStore` — a store with the saves under way, and what was compiled and inserted.
* `Criteria.SharedStore.turn`, `Criteria.SharedStore.run` — one caller takes the next step, and
  callers take their steps in a given order.
* `Criteria.SharedStore.Step` — all that a turn can do.
* `Criteria.SharedStore.Coherent` — the agreement.

## Main results

* `Criteria.SharedStore.step_turn` — every turn is one of the steps.
* `Criteria.SharedStore.save_eq_turn_turn` — two turns without another between them save.
* `Criteria.SharedStore.coherent_run` — the agreement holds after every order of turns.

## Implementation notes

A turn of a caller who is through does nothing, so that every list of callers is an order in which
they can take their steps.
-/

set_option autoImplicit false
set_option relaxedAutoImplicit false

namespace Criteria

/-- A definition can be saved if it has an id and its rule is valid. -/
def Definition.IsSavable (definition : Definition) : Prop :=
  definition.id ≠ "" ∧ definition.rule.issues = []

instance : DecidablePred Definition.IsSavable :=
  fun definition => inferInstanceAs (Decidable (definition.id ≠ "" ∧ definition.rule.issues = []))

namespace Store

/-- Compiling stamps a definition that can be saved with the next version. -/
theorem compile_of_isSavable (store : Store) {definition : Definition}
    (h : definition.IsSavable) :
    store.compile definition =
      .ok (⟨definition, definition.rule.attributes, store.compiler.version + 1⟩,
        { store with compiler := ⟨store.compiler.version + 1⟩ }) := by
  unfold compile
  rw [store.compiler.compile_of_issues h.1 h.2]
  rfl

/-- Compiling refuses every other definition. -/
theorem compile_of_not_isSavable (store : Store) {definition : Definition}
    (h : ¬definition.IsSavable) : ∃ fault, store.compile definition = .error fault := by
  unfold compile Compiler.compile
  by_cases hid : definition.id = ""
  · rw [if_pos hid]
    exact ⟨_, rfl⟩
  · rw [if_neg hid]
    cases hissues : definition.rule.issues with
    | nil => exact absurd ⟨hid, hissues⟩ h
    | cons issue issues => exact ⟨_, rfl⟩

end Store

/-- What was compiled for an id, in order. -/
def Compiled.under (id : String) (compiled : List Compiled) : List Compiled :=
  compiled.filter fun entry => entry.definition.id = id

/-! ## Saves under way -/

/-- How far a caller has got with saving a definition. -/
inductive Saving where
  /-- Nothing has been done. -/
  | waiting (definition : Definition)
  /-- The definition was refused. -/
  | refused (definition : Definition) (fault : Fault)
  /-- The definition has been compiled, and is not in the store yet. -/
  | held (compiled : Compiled)
  /-- The definition has been put into the store. -/
  | done (compiled : Compiled)

namespace Saving

/-- The definition that is saved. -/
def definition : Saving → Definition
  | .waiting definition => definition
  | .refused definition _ => definition
  | .held compiled => compiled.definition
  | .done compiled => compiled.definition

/-- What the definition was compiled to. -/
def compiled? : Saving → Option Compiled
  | .held compiled => some compiled
  | .done compiled => some compiled
  | _ => none

/-- What was put into the store. -/
def inserted? : Saving → Option Compiled
  | .done compiled => some compiled
  | _ => none

/-- How many steps are left at most. -/
def remaining : Saving → Nat
  | .waiting _ => 2
  | .held _ => 1
  | _ => 0

/-- Only what can be saved is compiled, and only what cannot be saved is refused. -/
def Fits : Saving → Prop
  | .waiting _ => True
  | .refused definition _ => ¬definition.IsSavable
  | .held compiled => compiled.definition.IsSavable
  | .done compiled => compiled.definition.IsSavable

end Saving

/-- A store with the saves under way. -/
structure SharedStore where
  /-- The store. -/
  store : Store
  /-- How far each caller has got. -/
  savings : List Saving
  /-- What has been compiled, in order. -/
  compiled : List Compiled
  /-- What has been put into the store, in order. -/
  inserted : List Compiled

namespace SharedStore

/-- Callers who want to save definitions to a store without rules. -/
def start (definitions : List Definition) : SharedStore :=
  ⟨.fresh, definitions.map .waiting, [], []⟩

/-- A caller takes the next step: it compiles its definition, or inserts what it has compiled. -/
def turn (shared : SharedStore) (caller : Nat) : SharedStore :=
  match shared.savings[caller]? with
  | some (.waiting definition) =>
    match shared.store.compile definition with
    | .error fault =>
      { shared with savings := shared.savings.set caller (.refused definition fault) }
    | .ok (compiled, store) =>
      { shared with
        store
        savings := shared.savings.set caller (.held compiled)
        compiled := shared.compiled ++ [compiled] }
  | some (.held compiled) =>
    { shared with
      store := shared.store.insert compiled
      savings := shared.savings.set caller (.done compiled)
      inserted := shared.inserted ++ [compiled] }
  | _ => shared

/-- Callers take their steps in a given order. -/
def run (shared : SharedStore) (turns : List Nat) : SharedStore := turns.foldl turn shared

/-- All saves are over. -/
def Finished (shared : SharedStore) : Prop := ∀ saving ∈ shared.savings, saving.remaining = 0

variable {shared next : SharedStore} {definitions : List Definition} {caller : Nat}

/-- One more turn comes last. -/
theorem run_snoc (shared : SharedStore) (turns : List Nat) (caller : Nat) :
    shared.run (turns ++ [caller]) = (shared.run turns).turn caller := by
  simp [run, List.foldl_append]

/-! ## What a turn does -/

/-- All that a turn can do. -/
inductive Step (shared : SharedStore) : SharedStore → Prop where
  /-- A definition is refused. -/
  | refused {front back : List Saving} {definition : Definition} {fault : Fault}
      (hsavings : shared.savings = front ++ .waiting definition :: back)
      (hrefused : ¬definition.IsSavable) :
      Step shared { shared with savings := front ++ .refused definition fault :: back }
  /-- A definition is compiled, with the next version. -/
  | compiled {front back : List Saving} {entry : Compiled}
      (hsavings : shared.savings = front ++ .waiting entry.definition :: back)
      (hsavable : entry.definition.IsSavable)
      (hversion : entry.version = shared.store.compiler.version + 1) :
      Step shared {
        store := { shared.store with compiler := ⟨entry.version⟩ }
        savings := front ++ .held entry :: back
        compiled := shared.compiled ++ [entry]
        inserted := shared.inserted }
  /-- What was compiled is put into the store. -/
  | inserted {front back : List Saving} {entry : Compiled}
      (hsavings : shared.savings = front ++ .held entry :: back) :
      Step shared {
        store := shared.store.insert entry
        savings := front ++ .done entry :: back
        compiled := shared.compiled
        inserted := shared.inserted ++ [entry] }
  /-- Nothing is left to do. -/
  | idle : Step shared shared

/-- A list at one of its places. -/
theorem exists_split {α : Type} {items : List α} {place : Nat} {item : α}
    (h : items[place]? = some item) :
    ∃ front back, items = front ++ item :: back ∧
      ∀ other, items.set place other = front ++ other :: back := by
  obtain ⟨hplace, rfl⟩ := List.getElem?_eq_some_iff.1 h
  refine ⟨items.take place, items.drop (place + 1), ?_, ?_⟩
  · rw [← List.drop_eq_getElem_cons hplace, List.take_append_drop]
  · intro other
    rw [List.set_eq_take_append_cons_drop, if_pos hplace]

/-- **Every turn is one of the steps.** -/
theorem step_turn (shared : SharedStore) (caller : Nat) : shared.Step (shared.turn caller) := by
  unfold turn
  cases hsaving : shared.savings[caller]? with
  | none => exact .idle
  | some saving =>
    obtain ⟨front, back, hsplit, hset⟩ := exists_split hsaving
    cases saving with
    | waiting definition =>
      dsimp only
      by_cases hsavable : definition.IsSavable
      · rw [shared.store.compile_of_isSavable hsavable]
        dsimp only
        rw [hset]
        have hversion : (Compiled.mk definition definition.rule.attributes
            (shared.store.compiler.version + 1)).version = shared.store.compiler.version + 1 := rfl
        exact .compiled hsplit hsavable hversion
      · obtain ⟨fault, hfault⟩ := shared.store.compile_of_not_isSavable hsavable
        rw [hfault]
        dsimp only
        rw [hset]
        exact .refused hsplit hsavable
    | held entry =>
      dsimp only
      rw [hset]
      exact .inserted hsplit
    | refused definition fault => exact .idle
    | done entry => exact .idle

/-- A step inserts at most one entry. -/
theorem Step.inserted_eq (hstep : shared.Step next) :
    next.inserted = shared.inserted ∨ ∃ entry, next.inserted = shared.inserted ++ [entry] := by
  cases hstep with
  | refused hsavings hrefused => exact .inl rfl
  | compiled hsavings hsavable hversion => exact .inl rfl
  | inserted hsavings => exact .inr ⟨_, rfl⟩
  | idle => exact .inl rfl

/-- Two turns that follow each other save a definition as a caller alone does. -/
theorem save_eq_turn_turn {definition : Definition}
    (hsaving : shared.savings[caller]? = some (.waiting definition))
    (hsavable : definition.IsSavable) :
    shared.store.save definition =
      .ok (definition.id, ((shared.turn caller).turn caller).store) := by
  have hplace : caller < shared.savings.length := (List.getElem?_eq_some_iff.1 hsaving).1
  have hfirst : shared.turn caller = {
      store := { shared.store with compiler := ⟨shared.store.compiler.version + 1⟩ }
      savings := shared.savings.set caller (.held
        ⟨definition, definition.rule.attributes, shared.store.compiler.version + 1⟩)
      compiled := shared.compiled ++
        [⟨definition, definition.rule.attributes, shared.store.compiler.version + 1⟩]
      inserted := shared.inserted } := by
    unfold turn
    rw [hsaving]
    dsimp only
    rw [shared.store.compile_of_isSavable hsavable]
  unfold Store.save
  rw [shared.store.compile_of_isSavable hsavable, hfirst]
  unfold turn
  dsimp only
  rw [List.getElem?_set_self hplace]
  rfl

/-! ## What holds after every order of turns -/

/-- The store and the saves under way agree with what has been compiled and inserted. -/
structure Coherent (definitions : List Definition) (shared : SharedStore) : Prop where
  /-- Versions are handed out one after another, from one on. -/
  counted : shared.compiled.map Compiled.version = List.range' 1 shared.store.compiler.version
  /-- Under an id stands what was inserted last for it. -/
  placed : ∀ id, shared.store.rules.get? id = (Compiled.under id shared.inserted).getLast?
  /-- What was compiled is what the callers have compiled. -/
  compiled_perm : (shared.savings.filterMap Saving.compiled?).Perm shared.compiled
  /-- What was inserted is what the callers have inserted. -/
  inserted_perm : (shared.savings.filterMap Saving.inserted?).Perm shared.inserted
  /-- Every caller saves its own definition. -/
  definitions_eq : shared.savings.map Saving.definition = definitions
  /-- Only what can be saved is compiled. -/
  fits : ∀ saving ∈ shared.savings, saving.Fits

theorem coherent_start (definitions : List Definition) : Coherent definitions (start definitions)
    where
  counted := rfl
  placed _ := rfl
  compiled_perm := by
    have hnone : (definitions.map Saving.waiting).filterMap Saving.compiled? = [] := by
      simp [Saving.compiled?]
    exact hnone ▸ .refl _
  inserted_perm := by
    have hnone : (definitions.map Saving.waiting).filterMap Saving.inserted? = [] := by
      simp [Saving.inserted?]
    exact hnone ▸ .refl _
  definitions_eq := by simp [start, Saving.definition, Function.comp_def]
  fits := by
    intro saving hmem
    obtain ⟨definition, -, rfl⟩ := List.mem_map.1 hmem
    trivial

/-- An entry that comes to the middle of a list comes to the end of a rearrangement of it. -/
theorem perm_concat_of_perm {α : Type} {front back items : List α} (item : α)
    (h : (front ++ back).Perm items) : (front ++ item :: back).Perm (items ++ [item]) :=
  calc (front ++ item :: back).Perm (item :: (front ++ back)) := List.perm_middle
    _ |>.Perm (item :: items) := h.cons item
    _ |>.Perm (items ++ [item]) := (List.perm_append_singleton item items).symm

/-- What was compiled for an id, after one more definition. -/
theorem under_concat (id : String) (compiled : List Compiled) (entry : Compiled) :
    Compiled.under id (compiled ++ [entry]) =
      if entry.definition.id = id then Compiled.under id compiled ++ [entry]
      else Compiled.under id compiled := by
  unfold Compiled.under
  by_cases h : entry.definition.id = id <;> simp [h]

theorem Coherent.step (h : Coherent definitions shared) (hstep : shared.Step next) :
    Coherent definitions next := by
  obtain ⟨hcounted, hplaced, hcompiled, hinserted, hdefinitions, hfits⟩ := h
  cases hstep with
  | idle => exact ⟨hcounted, hplaced, hcompiled, hinserted, hdefinitions, hfits⟩
  | refused hsavings hrefused =>
    rw [hsavings] at hcompiled hinserted hdefinitions hfits
    refine ⟨hcounted, hplaced, ?_, ?_, ?_, ?_⟩
    · simpa [List.filterMap_cons, Saving.compiled?] using hcompiled
    · simpa [List.filterMap_cons, Saving.inserted?] using hinserted
    · simpa [Saving.definition] using hdefinitions
    · simp only [List.forall_mem_append, List.forall_mem_cons] at hfits ⊢
      exact ⟨hfits.1, hrefused, hfits.2.2⟩
  | @compiled front back entry hsavings hsavable hversion =>
    rw [hsavings] at hcompiled hinserted hdefinitions hfits
    refine ⟨?_, hplaced, ?_, ?_, ?_, ?_⟩
    · dsimp only
      rw [List.map_append, hcounted, hversion, List.range'_1_concat, Nat.add_comm 1]
      simp [hversion]
    · have hbefore : (front.filterMap Saving.compiled? ++ back.filterMap Saving.compiled?).Perm
          shared.compiled := by simpa [List.filterMap_cons, Saving.compiled?] using hcompiled
      simpa [List.filterMap_cons, Saving.compiled?] using perm_concat_of_perm entry hbefore
    · simpa [List.filterMap_cons, Saving.inserted?] using hinserted
    · simpa [Saving.definition] using hdefinitions
    · simp only [List.forall_mem_append, List.forall_mem_cons] at hfits ⊢
      exact ⟨hfits.1, hsavable, hfits.2.2⟩
  | @inserted front back entry hsavings =>
    rw [hsavings] at hcompiled hinserted hdefinitions hfits
    refine ⟨hcounted, ?_, ?_, ?_, ?_, ?_⟩
    · intro id
      dsimp only [Store.insert]
      rw [Table.get?_insert, under_concat, hplaced]
      split
      · exact List.getLast?_concat.symm
      · rfl
    · simpa [List.filterMap_cons, Saving.compiled?] using hcompiled
    · have hbefore : (front.filterMap Saving.inserted? ++ back.filterMap Saving.inserted?).Perm
          shared.inserted := by simpa [List.filterMap_cons, Saving.inserted?] using hinserted
      simpa [List.filterMap_cons, Saving.inserted?] using perm_concat_of_perm entry hbefore
    · simpa [Saving.definition] using hdefinitions
    · simp only [List.forall_mem_append, List.forall_mem_cons] at hfits ⊢
      exact ⟨hfits.1, hfits.2.1, hfits.2.2⟩

/-- **The store agrees with what has been compiled and inserted, after every order of turns.** -/
theorem coherent_run (definitions : List Definition) (turns : List Nat) :
    Coherent definitions ((start definitions).run turns) := by
  induction turns using List.reverseRecOn with
  | nil => exact coherent_start definitions
  | append_singleton turns caller ih =>
    rw [run_snoc]
    exact ih.step (step_turn _ caller)

end SharedStore

end Criteria

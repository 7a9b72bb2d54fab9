import Criteria.Evaluation.Trace
import Criteria.Store.Compiler

/-!
# The store

Rules that have been compiled, kept by id.

## Main definitions

* `Criteria.Store` — the type.
* `Criteria.Store.save`, `Criteria.Store.load`, `Criteria.Store.delete` — the operations.
* `Criteria.Store.execute` — a stored rule evaluated with a report.
* `Criteria.Store.statistics` — figures about the stored rules.

## Implementation notes

Saving is two steps, `Store.compile` and `Store.insert`, of which only the first may fail. A
failed operation has no store in its result, so the caller keeps the one it had.
-/

set_option autoImplicit false
set_option relaxedAutoImplicit false

namespace Criteria

/-- Rules kept by id. -/
structure Store where
  /-- The compiled rules. -/
  rules : Table Compiled
  /-- The compiler that all of them went through. -/
  compiler : Compiler

/-- Figures about the rules of a store. -/
structure Statistics where
  /-- How many rules there are. -/
  rules : Nat
  /-- How many conditions they have together. -/
  conditions : Nat
  /-- How many levels the deepest has. -/
  maxDepth : Nat
  /-- How many conditions a rule has on average, zero without rules. -/
  average : Number
  deriving DecidableEq

namespace Store

/-- A store without rules. -/
def fresh : Store := ⟨.empty, .fresh⟩

/-- The number of stored rules. -/
def size (store : Store) : Nat := store.rules.size

/-- Whether nothing is stored. -/
def isEmpty (store : Store) : Bool := store.size == 0

/-- The ids of the stored rules. -/
def ids (store : Store) : List String := store.rules.names

/-! ## Saving -/

/-- The first step of saving: the definition is compiled. -/
def compile (store : Store) (definition : Definition) : Except Fault (Compiled × Store) :=
  (store.compiler.compile definition).map fun (compiled, compiler) =>
    (compiled, { store with compiler })

/-- The second step of saving: a compiled rule takes the place under its id. -/
def insert (store : Store) (compiled : Compiled) : Store :=
  { store with rules := store.rules.insert compiled.definition.id compiled }

/-- Saves a definition and answers its id. -/
def save (store : Store) (definition : Definition) : Except Fault (String × Store) :=
  (store.compile definition).map fun (compiled, store) => (definition.id, store.insert compiled)

/-- Saves the rule that a text is and answers its id. -/
def saveText (store : Store) (id name createdAt text : String) :
    Except Fault (String × Store) := do
  let rule ← Rule.ofText text
  store.save { id, name, rule, createdAt }

/-! ## Other operations -/

/-- The rule under an id. -/
def load (store : Store) (id : String) : Except Fault Compiled :=
  match store.rules.get? id with
  | some compiled => .ok compiled
  | none => .error (.ruleNotFound id)

/-- Removes the rule under an id. -/
def delete (store : Store) (id : String) : Except Fault Store :=
  match store.rules.get? id with
  | some _ => .ok { store with rules := store.rules.erase id }
  | none => .error (.ruleNotFound id)

/-- Figures about the stored rules. -/
def statistics (store : Store) : Statistics :=
  let rules := store.rules.entries.map fun entry => entry.2.definition.rule
  let conditions := rules.foldr (fun rule count => rule.conditionCount + count) 0
  { rules := rules.length
    conditions
    maxDepth := rules.foldl (fun depth rule => max depth rule.depth) 0
    average := if rules.length = 0 then .zero else .quotient conditions rules.length }

end Store

/-- The report on a compiled rule, which carries its id and its name. -/
def Compiled.report (compiled : Compiled) (tracing : Bool) (record : Record) :
    Except Fault Report :=
  compiled.definition.rule.reportAs compiled.definition.id compiled.definition.name tracing record

end Criteria

import Criteria.Rule.Parse
import Criteria.Validation

/-!
# Compiling rules

A definition is compiled before it is stored: it must have an id and a valid rule, and it is
stamped with the next version.

## Main definitions

* `Criteria.Definition` — a rule with an id, a name and the time of its creation.
* `Criteria.Compiled` — a definition that has been checked.
* `Criteria.Compiler` — the count of what has been compiled.
* `Criteria.Compiler.compile`, `Criteria.Compiler.compileText` — compiling a definition, and
  the definition of a text.

## Implementation notes

Versions are natural numbers, where the service counts with 64 bits. The count does not overflow
before 2 ^ 64 definitions have been compiled, which is out of reach.
-/

set_option autoImplicit false
set_option relaxedAutoImplicit false

namespace Criteria

/-- A rule that can be kept. -/
structure Definition where
  /-- What it is kept under. -/
  id : String
  /-- What it is called. -/
  name : String
  /-- The rule. -/
  rule : Rule
  /-- When it was made, as it was told. -/
  createdAt : String
  deriving DecidableEq

/-- A definition that has been checked. -/
structure Compiled where
  /-- The definition. -/
  definition : Definition
  /-- The attributes that its rule speaks about, in order. -/
  attributes : List String
  /-- Its place among everything that was compiled, from one on. -/
  version : Nat
  deriving DecidableEq

/-- What compiling keeps in mind. -/
structure Compiler where
  /-- How many definitions have been compiled. -/
  version : Nat
  deriving DecidableEq

namespace Compiler

/-- Nothing has been compiled. -/
def fresh : Compiler := ⟨0⟩

/-- Compiles a definition. A definition that is refused leaves no trace. -/
def compile (compiler : Compiler) (definition : Definition) :
    Except Fault (Compiled × Compiler) :=
  if definition.id = "" then .error (.invalidArgument "规则 ID 不能为空")
  else
    match definition.rule.issues with
    | [] =>
      let version := compiler.version + 1
      .ok (⟨definition, definition.rule.attributes, version⟩, ⟨version⟩)
    | issues => .error (.invalidTree issues)

/-- Compiles the rule that a text is. -/
def compileText (compiler : Compiler) (id name createdAt text : String) :
    Except Fault (Compiled × Compiler) := do
  let rule ← Rule.ofText text
  compiler.compile { id, name, rule, createdAt }

end Compiler

end Criteria

import Criteria.Rule.Text

/-!
# Outlines

The form in which rules are handed in and out: nodes that carry a type, a value and up to two
children, of which nothing else is known.

## Main definitions

* `Criteria.Outline` — the nodes.
* `Criteria.Outline.ofRule` — the outline of a rule.
-/

set_option autoImplicit false
set_option relaxedAutoImplicit false

namespace Criteria

/-- A node of a tree that comes from outside. -/
structure Outline where
  /-- What the node claims to be. -/
  type : String
  /-- A connective, or the text of a condition. -/
  value : Option String
  /-- The left child. -/
  left : Option Outline
  /-- The right child. -/
  right : Option Outline

namespace Outline

/-- The type of nodes that join two others. -/
def operatorType : String := "operator"

/-- The type of nodes that are conditions. -/
def operandType : String := "operand"

/-- The outline of a rule: a connective by its word, a condition by its text. -/
def ofRule : Rule → Outline
  | .condition c => ⟨operandType, some c.text, none, none⟩
  | .join op left right =>
    ⟨operatorType, some op.word, some (ofRule left), some (ofRule right)⟩

end Outline

end Criteria

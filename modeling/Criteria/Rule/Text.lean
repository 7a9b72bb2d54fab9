import Criteria.Rule.Basic

/-!
# The text of a rule

A rule written out with the fewest brackets: a side is bracketed if it binds less tightly than
its parent, or if it is a right side that binds equally tightly.

## Main definitions

* `Criteria.Condition.text`, `Criteria.Rule.text` — the texts.
* `Criteria.Rule.bracketDepth` — how deep the brackets of the text are nested.
-/

set_option autoImplicit false
set_option relaxedAutoImplicit false

namespace Criteria

/-- A condition as it is written. -/
def Condition.text (c : Condition) : String :=
  c.name ++ " " ++ c.comparator.symbol ++ " " ++ c.value.text

namespace Rule

/-- Whether a rule is bracketed on the given side of a parent. -/
def needsBrackets (rule : Rule) (parent : Connective) (side : Side) : Bool :=
  match rule with
  | .condition _ => false
  | .join op _ _ =>
    op.precedence < parent.precedence || (side == .right && op.precedence == parent.precedence)

/-- A text in brackets if they are needed. -/
def bracketed (needed : Bool) (text : String) : String :=
  if needed then "(" ++ text ++ ")" else text

/-- A rule as it is written. -/
def text : Rule → String
  | .condition c => c.text
  | .join op left right =>
    bracketed (left.needsBrackets op .left) left.text ++ " " ++ op.word ++ " "
      ++ bracketed (right.needsBrackets op .right) right.text

/-- How deep the brackets in the text of a rule are nested. -/
def bracketDepth : Rule → Nat
  | .condition _ => 0
  | .join op left right =>
    max (left.bracketDepth + (left.needsBrackets op .left).toNat)
      (right.bracketDepth + (right.needsBrackets op .right).toNat)

end Rule

end Criteria

import Criteria.Fault
import Criteria.Rule.Text

/-!
# Combination

Several rules under one connective, grouped to the left.

## Main definitions

* `Criteria.Rule.joinAll` — the combined tree.
* `Criteria.Rule.combine` — the combined tree, unless there is nothing to combine or its text
  would nest brackets too deep.
-/

set_option autoImplicit false
set_option relaxedAutoImplicit false

namespace Criteria.Rule

/-- A rule and those that follow it under one connective, grouped to the left. A rule that
nothing follows stays as it is. -/
def joinAll (op : Connective) (first : Rule) (others : List Rule) : Rule :=
  others.foldl (.join op) first

/-- Combines rules under a connective. -/
def combine (op : Connective) : List Rule → Except Fault Rule
  | [] => .error (.invalidArgument "待组合的规则列表不能为空")
  | first :: others =>
    let combined := joinAll op first others
    if maxNesting < combined.bracketDepth then
      .error (.invalidArgument s!"组合后括号嵌套 {combined.bracketDepth} 层，超过上限 {maxNesting}")
    else .ok combined

end Criteria.Rule

import Criteria.Operator
import Criteria.Rule.Path

/-!
# Rules

A rule is a condition, or two rules under a connective.

## Main definitions

* `Criteria.Condition` — an attribute, a comparator and a literal.
* `Criteria.Rule` — the trees.
* `Criteria.Rule.conditions`, `Criteria.Rule.attributes` — what a rule speaks about.
* `Criteria.Rule.node?` — the subtree at an address.
* `Criteria.Rule.equals` — equality of rules up to numeric equality of their literals.

## Main results

* `Criteria.Rule.length_conditions` — the conditions of a rule are counted.
-/

set_option autoImplicit false
set_option relaxedAutoImplicit false

namespace Criteria

/-- A comparison of one attribute with a literal. -/
structure Condition where
  /-- The name of the attribute. -/
  name : String
  /-- How it is compared. -/
  comparator : Comparator
  /-- What it is compared with. -/
  value : Value
  deriving DecidableEq

/-- A tree of conditions under connectives. -/
inductive Rule where
  /-- A leaf. -/
  | condition (condition : Condition)
  /-- Two rules under a connective. -/
  | join (op : Connective) (left right : Rule)
  deriving DecidableEq

/-- Inserts a name into an ordered list of names, unless it is there. -/
def insertName (name : String) : List String → List String
  | [] => [name]
  | other :: rest =>
    if name = other then other :: rest
    else if name < other then name :: other :: rest
    else other :: insertName name rest

namespace Condition

/-- Whether two conditions are the same up to numeric equality of their literals. -/
def equals (a b : Condition) : Bool :=
  a.name == b.name && a.comparator == b.comparator && a.value.equals b.value

end Condition

namespace Rule

/-- The number of levels of a rule; a condition has one. -/
def depth : Rule → Nat
  | .condition _ => 1
  | .join _ left right => 1 + max left.depth right.depth

/-- The conditions of a rule from left to right. -/
def conditions : Rule → List Condition
  | .condition c => [c]
  | .join _ left right => left.conditions ++ right.conditions

/-- The number of conditions of a rule. -/
def conditionCount : Rule → Nat
  | .condition _ => 1
  | .join _ left right => left.conditionCount + right.conditionCount

/-- The names of the attributes of a rule, in order and without repetition. -/
def attributes (rule : Rule) : List String :=
  rule.conditions.foldl (fun names c => insertName c.name names) []

/-- The subtree at an address. -/
def node? : Rule → Path → Option Rule
  | rule, [] => some rule
  | .condition _, _ :: _ => none
  | .join _ left _, .left :: path => left.node? path
  | .join _ _ right, .right :: path => right.node? path

/-- Whether two rules are the same up to numeric equality of their literals. -/
def equals : Rule → Rule → Bool
  | .condition a, .condition b => a.equals b
  | .join op left right, .join op' left' right' =>
    op == op' && left.equals left' && right.equals right'
  | _, _ => false

/-- A rule has as many conditions as it lists. -/
theorem length_conditions (rule : Rule) : rule.conditions.length = rule.conditionCount := by
  induction rule with
  | condition c => rfl
  | join op left right ihl ihr => simp [conditions, conditionCount, ihl, ihr]

end Rule

/-- Inserting a name adds it and keeps all others. -/
theorem mem_insertName {a name : String} {names : List String} :
    a ∈ insertName name names ↔ a = name ∨ a ∈ names := by
  induction names with
  | nil => simp [insertName]
  | cons other rest ih =>
    unfold insertName
    split
    · next h => subst h; simp
    · split
      · simp
      · simp only [List.mem_cons, ih]
        exact or_left_comm

end Criteria

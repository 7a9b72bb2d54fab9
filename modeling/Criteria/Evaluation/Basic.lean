import Criteria.Fault
import Criteria.Record
import Criteria.Rule.Basic

/-!
# Evaluation

A rule holds of a record or it does not, or a field is missing or of the wrong kind. The left
side of a rule is evaluated first, and the right side only if the left side does not settle the
rule.

## Main definitions

* `Criteria.Value.compare` — a field compared with a literal.
* `Criteria.Condition.evaluate`, `Criteria.Rule.evaluate` — evaluation.

## Implementation notes

Nothing is converted between kinds. The comparator is checked against the literal first and the
field against the literal second.
-/

set_option autoImplicit false
set_option relaxedAutoImplicit false

namespace Criteria

namespace Comparator

/-- Whether two numbers stand in the relation of a comparator. -/
def holdsOfNumbers : Comparator → Number → Number → Bool
  | .eq, a, b => a.equals b
  | .ne, a, b => !a.equals b
  | .gt, a, b => b.below a
  | .ge, a, b => b.below a || a.equals b
  | .lt, a, b => a.below b
  | .le, a, b => a.below b || a.equals b

/-- Whether a comparator holds of two values of which it is known whether they are the same. -/
def holdsOfEquality : Comparator → Bool → Bool
  | .ne, same => !same
  | _, same => same

end Comparator

namespace Value

/-- The fault of comparing values that cannot be compared. -/
def mismatch (comparator : Comparator) (expected actual : String) : Fault :=
  .typeMismatch comparator.symbol expected actual

/-- Compares a field with a literal. -/
def compare (field : Value) (comparator : Comparator) (expected : Value) : Except Fault Bool :=
  if comparator.supports expected.kind then
    match field, expected with
    | .number a, .number b => .ok (comparator.holdsOfNumbers a b)
    | .string a, .string b => .ok (comparator.holdsOfEquality (a == b))
    | .bool a, .bool b => .ok (comparator.holdsOfEquality (a == b))
    | _, _ => .error (mismatch comparator expected.kind.name field.kind.name)
  else .error (mismatch comparator comparator.supportedKinds expected.kind.name)

end Value

namespace Condition

/-- Evaluates a condition on the field it names, `none` if the record has no such field. -/
def evaluate (c : Condition) (field : Option Value) : Except Fault Bool :=
  match field with
  | none => .error (.missingAttribute c.name)
  | some field => field.compare c.comparator c.value

end Condition

namespace Rule

/-- Evaluates a rule on a record. -/
def evaluate (record : Record) : Rule → Except Fault Bool
  | .condition c => c.evaluate (record.get? c.name)
  | .join op left right =>
    match left.evaluate record with
    | .error fault => .error fault
    | .ok holds => if op.settledBy holds then .ok holds else right.evaluate record

end Rule

end Criteria

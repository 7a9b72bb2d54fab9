import Criteria.Number.Shortest
import Criteria.Text.Quoted

/-!
# Values

The literals of rules and the fields of records.

## Main definitions

* `Criteria.Kind` — the three kinds of values.
* `Criteria.Value` — a value.
* `Criteria.Value.text` — a value as it is written in a rule.
* `Criteria.Value.equals` — equality of values, numeric on numbers.
-/

set_option autoImplicit false
set_option relaxedAutoImplicit false

namespace Criteria

/-- The kinds of values. -/
inductive Kind where
  /-- Numbers. -/
  | number
  /-- Texts. -/
  | string
  /-- Truth values. -/
  | boolean
  deriving DecidableEq

namespace Kind

/-- All kinds, in the order in which they are listed. -/
def all : List Kind := [.number, .string, .boolean]

/-- The name of a kind. -/
def name : Kind → String
  | .number => "number"
  | .string => "string"
  | .boolean => "boolean"

end Kind

/-- A literal of a rule, or a field of a record. -/
inductive Value where
  /-- A truth value. -/
  | bool (b : Bool)
  /-- A number. -/
  | number (n : Number)
  /-- A text. -/
  | string (s : String)
  deriving DecidableEq

namespace Value

/-- The kind of a value. -/
def kind : Value → Kind
  | .bool _ => .boolean
  | .number _ => .number
  | .string _ => .string

/-- The number that a value is. -/
def number? : Value → Option Number
  | .number n => some n
  | _ => none

/-- The word for a truth value. -/
def boolWord (b : Bool) : String := if b then "true" else "false"

/-- A value as it is written in a rule: texts are quoted. -/
def text : Value → String
  | .bool b => boolWord b
  | .number n => n.text
  | .string s => String.ofList (Quoted.encode s.toList)

/-- Whether two values are equal: numbers numerically, all others as they are. -/
def equals : Value → Value → Bool
  | .bool a, .bool b => a == b
  | .number a, .number b => a.equals b
  | .string a, .string b => a == b
  | _, _ => false

end Value

end Criteria

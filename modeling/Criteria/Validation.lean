import Criteria.Rule.Text
import Criteria.Token.Scan

/-!
# Valid rules

A rule is valid if its text can be read back: its attributes are names, its numbers are finite,
and its brackets are not nested too deep.

## Main definitions

* `Criteria.isName` — whether a text is a name.
* `Criteria.Condition.defects`, `Criteria.Rule.issues` — what is wrong with a rule.
-/

set_option autoImplicit false
set_option relaxedAutoImplicit false

namespace Criteria

/-- Whether a text is, as a whole, one identifier. -/
def isName (text : String) : Bool :=
  match Token.scan text.toList with
  | .ok [token] => token.kind == .identifier && token.text == text
  | _ => false

namespace Condition

/-- What is wrong with the attribute of a condition. -/
def nameDefects (c : Condition) : List Defect :=
  if trimBlank c.name.toList = [] then [.emptyAttribute]
  else if isName c.name then []
  else [.invalidAttribute c.name]

/-- What is wrong with the literal of a condition. -/
def valueDefects (c : Condition) : List Defect :=
  match c.value with
  | .number n => if n.isFinite then [] else [.nonFiniteNumber]
  | _ => []

/-- What is wrong with a condition. -/
def defects (c : Condition) : List Defect := c.nameDefects ++ c.valueDefects

end Condition

namespace Rule

/-- The issues of the conditions of a subtree at `path`. -/
def conditionIssues : Rule → Path → List Issue
  | .condition c, path => c.defects.map fun defect => ⟨path.text, defect⟩
  | .join _ left right, path =>
    left.conditionIssues (path ++ [.left]) ++ right.conditionIssues (path ++ [.right])

/-- The issue of a rule whose text nests brackets too deep. -/
def nestingIssues (rule : Rule) : List Issue :=
  if maxNesting < rule.bracketDepth then
    [⟨Path.text [], .nestingTooDeep rule.bracketDepth⟩]
  else []

/-- All issues of a rule, none for a valid one. -/
def issues (rule : Rule) : List Issue := rule.conditionIssues [] ++ rule.nestingIssues

end Rule

end Criteria

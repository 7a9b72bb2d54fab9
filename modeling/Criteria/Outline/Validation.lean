import Criteria.Outline.Basic
import Criteria.Rule.Parse
import Criteria.Validation

/-!
# Valid outlines

An outline that comes from outside is checked node by node before it is read as a rule.

## Main definitions

* `Criteria.Outline.operandDefect?` — what is wrong with the text of a condition.
* `Criteria.Outline.issues` — what is wrong with an outline.
* `Criteria.Outline.decode` — the rule that an outline stands for.
* `Criteria.Outline.toRule` — the rule of a valid outline.
-/

set_option autoImplicit false
set_option relaxedAutoImplicit false

namespace Criteria.Outline

/-! ## Defects of single nodes -/

/-- What the first tokens of a condition show to be wrong with it. -/
def openingDefect? : List Token → Option Defect
  | [] => some .missingValue
  | first :: rest =>
    if first.kind = .comparator then some .emptyAttribute
    else
      match rest with
      | [] => none
      | second :: rest =>
        if second.kind ≠ .comparator then some (.unknownComparator second.text)
        else if rest = [] then some .missingValue
        else none

/-- What is wrong with the text of a condition. -/
def operandDefect? (text : String) : Option Defect :=
  match Token.scan text.toList with
  | .error fault => some (.malformedOperand fault.message)
  | .ok tokens =>
    match openingDefect? tokens with
    | some defect => some defect
    | none =>
      match Rule.ofText text with
      | .ok (.condition _) => none
      | .ok (.join _ _ _) => some (.malformedOperand "条件中不能包含逻辑操作符")
      | .error fault => some (.malformedOperand fault.message)

/-- What is wrong with the value of an operator. -/
def operatorDefects : Option String → List Defect
  | none => [.missingValue]
  | some word => if (Connective.ofWord? word).isSome then [] else [.unknownOperator word]

/-- What is wrong with an operand: its children, then its value. -/
def operandDefects (value : Option String) (hasChildren : Bool) : List Defect :=
  (if hasChildren then [.unexpectedChildren] else []) ++
    match value with
    | none => [.missingValue]
    | some text => (operandDefect? text).toList

/-! ## Issues of whole outlines -/

/-- The issues of the nodes of an outline at `path`. Only operators have children that are
looked at; the issue of a missing child stands in place of the issues of the child. -/
def nodeIssues : Outline → Path → List Issue
  | ⟨type, value, left, right⟩, path =>
    let here (defects : List Defect) : List Issue := defects.map fun defect => ⟨path.text, defect⟩
    if type = operatorType then
      here (operatorDefects value)
        ++ (match left with
          | some child => child.nodeIssues (path ++ [.left])
          | none => here [.missingChild .left])
        ++ (match right with
          | some child => child.nodeIssues (path ++ [.right])
          | none => here [.missingChild .right])
    else if type = operandType then here (operandDefects value (left.isSome || right.isSome))
    else here [.unknownNodeType type]
termination_by structural outline => outline

/-! ## Outlines as rules -/

/-- The condition that a text is. -/
def decodeCondition (text : String) : Except Fault Rule := do
  match ← Rule.ofText text with
  | .condition c => .ok (.condition c)
  | .join _ _ _ => .error (.invalidArgument s!"条件 '{text}' 中不能包含逻辑操作符")

/-- The rule that an outline stands for. -/
def decode : Outline → Except Fault Rule
  | ⟨type, value, left, right⟩ =>
    let value := value.getD ""
    if type = operatorType then
      match Connective.read value with
      | .error reason => .error (.invalidArgument reason)
      | .ok op =>
        match left, right with
        | some left, some right => do
          let left ← left.decode
          let right ← right.decode
          .ok (.join op left right)
        | _, _ => .error (.invalidArgument "操作符节点缺少子节点")
    else decodeCondition value
termination_by structural outline => outline

/-- The issue of an outline whose rule nests brackets too deep. -/
def nestingIssues (outline : Outline) : List Issue :=
  match outline.decode with
  | .ok rule => rule.nestingIssues
  | .error _ => []

/-- All issues of an outline: those of its nodes, and if there are none that of its nesting. -/
def issues (outline : Outline) : List Issue :=
  match outline.nodeIssues [] with
  | [] => outline.nestingIssues
  | issues => issues

/-- The rule of a valid outline. -/
def toRule (outline : Outline) : Except Fault Rule :=
  match outline.issues with
  | [] => outline.decode
  | issues => .error (.invalidTree issues)

end Criteria.Outline

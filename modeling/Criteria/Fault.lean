import Criteria.Rule.Path

/-!
# Faults

What can be wrong with a text, a tree, an evaluation or a request for a rule.

## Main definitions

* `Criteria.Defect` — what is wrong with one node of a tree.
* `Criteria.Issue` — a defect with the address of its node.
* `Criteria.Fault` — what makes an operation fail, with its code and its message.

## Implementation notes

Every wording stands in one of the `message` functions; nothing else depends on it.
-/

set_option autoImplicit false
set_option relaxedAutoImplicit false

namespace Criteria

/-- How deep brackets may be nested in a text. -/
def maxNesting : Nat := 64

/-- What is wrong with one node of a tree. -/
inductive Defect where
  /-- The node is neither an operator nor an operand. -/
  | unknownNodeType (type : String)
  /-- The value of an operator is no connective. -/
  | unknownOperator (word : String)
  /-- An operator lacks a child. -/
  | missingChild (side : Side)
  /-- An operand has a child. -/
  | unexpectedChildren
  /-- The node has no value, or its value lacks a literal. -/
  | missingValue
  /-- The condition has no attribute. -/
  | emptyAttribute
  /-- The attribute could not be read back as one identifier. -/
  | invalidAttribute (name : String)
  /-- No comparator follows the attribute. -/
  | unknownComparator (text : String)
  /-- The literal is not a finite number. -/
  | nonFiniteNumber
  /-- The text of the condition cannot be read, for the reason given. -/
  | malformedOperand (reason : String)
  /-- The text of the tree would nest brackets too deep. -/
  | nestingTooDeep (depth : Nat)
  deriving DecidableEq

namespace Defect

/-- The word for a side in a message. -/
def sideWord : Side → String
  | .left => "左"
  | .right => "右"

/-- The message of a defect. -/
def message : Defect → String
  | .unknownNodeType type => s!"未知的节点类型 '{type}'"
  | .unknownOperator word => s!"未知的逻辑操作符 '{word}'"
  | .missingChild side => s!"操作符节点缺少{sideWord side}子节点"
  | .unexpectedChildren => "条件节点不能有子节点"
  | .missingValue => "节点缺少值"
  | .emptyAttribute => "条件的属性名不能为空"
  | .invalidAttribute name => s!"属性名 '{name}' 不是合法的标识符"
  | .unknownComparator text => s!"未知的比较操作符 '{text}'"
  | .nonFiniteNumber => "数值字面量必须是有限数"
  | .malformedOperand reason => s!"条件格式错误: {reason}"
  | .nestingTooDeep depth => s!"输出为文本后括号嵌套 {depth} 层，超过上限 {maxNesting}"

end Defect

/-- A defect of the node at an address. -/
structure Issue where
  /-- The text of the address. -/
  path : String
  /-- What is wrong there. -/
  defect : Defect
  deriving DecidableEq

namespace Issue

/-- The message of an issue, with its address. -/
def message (issue : Issue) : String := s!"{issue.path}: {issue.defect.message}"

end Issue

/-- What makes an operation on rules fail. -/
inductive Fault where
  /-- No token starts with this character. -/
  | unrecognized (character : Char) (offset : Nat)
  /-- The tokens are no rule. -/
  | unexpected (found expected : String) (offset : Nat)
  /-- An argument is of no use. -/
  | invalidArgument (reason : String)
  /-- A tree has defects. -/
  | invalidTree (issues : List Issue)
  /-- The record has no such attribute. -/
  | missingAttribute (name : String)
  /-- A comparison of values that cannot be compared. -/
  | typeMismatch (comparator expected actual : String)
  /-- No rule is stored under this id. -/
  | ruleNotFound (id : String)
  /-- A text is not the JSON of what it should hold. -/
  | unreadableJson
  deriving DecidableEq

namespace Fault

/-- The code of a fault. -/
def code : Fault → String
  | .unrecognized _ _ => "LEX_ERROR"
  | .unexpected _ _ _ => "SYNTAX_ERROR"
  | .invalidArgument _ => "INVALID_ARGUMENT"
  | .invalidTree _ => "VALIDATION_ERROR"
  | .missingAttribute _ => "MISSING_ATTRIBUTE"
  | .typeMismatch _ _ _ => "TYPE_MISMATCH"
  | .ruleNotFound _ => "RULE_NOT_FOUND"
  | .unreadableJson => "JSON_ERROR"

/-- Whether the one who asked can mend the fault by asking differently. -/
def isCallersFault : Fault → Bool
  | .unreadableJson => false
  | _ => true

/-- The message of a fault. -/
def message : Fault → String
  | .unrecognized character offset => s!"词法错误: 位置 {offset} 处无法识别的字符 '{character}'"
  | .unexpected found expected offset =>
    s!"语法错误: 位置 {offset} 处期望 {expected}, 实际为 {found}"
  | .invalidArgument reason => s!"无效的参数: {reason}"
  | .invalidTree issues => "规则结构校验失败: " ++ "; ".intercalate (issues.map Issue.message)
  | .missingAttribute name => s!"字段不存在: {name}"
  | .typeMismatch comparator expected actual =>
    s!"类型不匹配: 操作符 {comparator} 期望 {expected}, 实际 {actual}"
  | .ruleNotFound id => s!"规则未找到: {id}"
  | .unreadableJson => "JSON 序列化错误"

end Fault

end Criteria

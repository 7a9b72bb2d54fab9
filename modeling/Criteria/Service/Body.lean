import Criteria.Outline.Json
import Criteria.Service.Message

/-!
# Bodies of requests

What each kind of request carries, how it is read from JSON, and what is checked before anything
else is done.

## Main definitions

* `Criteria.CreateBody`, `Criteria.CombineBody`, `Criteria.EvaluateBody`,
  `Criteria.ValidateBody` — the bodies.
* `complaints` in each of these namespaces — what is wrong with the fields of a body.

## Implementation notes

In the form of a list a body has all its fields, those that are optional as `null`.
-/

set_option autoImplicit false
set_option relaxedAutoImplicit false

namespace Criteria

/-- A part that cannot be missing. -/
def Draft.demand {α : Type} (part : Option α) : Except Misread α :=
  match part with
  | some value => .ok value
  | none => .error .mismatched

/-- The complaint that a text of a field is wrong. -/
def complaint (field wording : String) : String := field ++ ": " ++ wording

/-! ## A rule to be kept -/

/-- Asks for a rule to be kept. -/
structure CreateBody where
  /-- The text of the rule. -/
  rule : String
  /-- What it shall be called. -/
  name : Option String
  deriving DecidableEq

namespace CreateBody

/-- The parts of the body. -/
def shape : Shape (Option String × Option (Option String)) where
  names := ["rule", "name"]
  required := 2
  start := (none, none)
  part := fun (rule, name) key draft =>
    if key = "rule" then (draft.readOnce rule Draft.readText).map (·, name)
    else (draft.readOnce name (Draft.readOptional Draft.readText)).map (rule, ·)

/-- Reads the body. -/
def ofDraft (draft : Draft) : Except Misread CreateBody := do
  let (rule, name) ← draft.readShape shape maxLevels
  let rule ← Draft.demand rule
  .ok { rule, name := name.join }

/-- How many characters the name of a rule may have. -/
def maxNameLength : Nat := 100

/-- What is wrong with the fields. -/
def complaints (body : CreateBody) : List String :=
  (if body.rule = "" then [complaint "rule" "规则文本不能为空"] else [])
    ++ (match body.name with
      | some name =>
        if 1 ≤ name.length ∧ name.length ≤ maxNameLength then []
        else [complaint "name" s!"规则名称长度必须在1-{maxNameLength}个字符之间"]
      | none => [])

end CreateBody

/-! ## Rules to be combined -/

/-- Asks for rules to be combined. -/
structure CombineBody where
  /-- The texts of the rules. -/
  rules : List String
  /-- The word for the connective. -/
  operator : Option String
  deriving DecidableEq

namespace CombineBody

/-- The parts of the body. -/
def shape : Shape (Option (List String) × Option (Option String)) where
  names := ["rules", "operator"]
  required := 2
  start := (none, none)
  part := fun (rules, operator) key draft =>
    if key = "rules" then
      (draft.readOnce rules (Draft.readTexts (maxLevels - 1))).map (·, operator)
    else (draft.readOnce operator (Draft.readOptional Draft.readText)).map (rules, ·)

/-- Reads the body. -/
def ofDraft (draft : Draft) : Except Misread CombineBody := do
  let (rules, operator) ← draft.readShape shape maxLevels
  let rules ← Draft.demand rules
  .ok { rules, operator := operator.join }

/-- What is wrong with the fields. -/
def complaints (body : CombineBody) : List String :=
  if body.operator = some "" then [complaint "operator" "逻辑操作符不能为空"] else []

end CombineBody

/-! ## A rule to be evaluated -/

/-- Asks whether a rule holds of a record. -/
structure EvaluateBody where
  /-- The rule itself. -/
  ast : Option Outline
  /-- The id that it is kept under. -/
  ruleId : Option String
  /-- The record. -/
  data : Record
  /-- Whether the evaluation is traced. -/
  trace : Option Bool

namespace EvaluateBody

/-- The parts of the body that have been read. -/
structure Parts where
  /-- The rule. -/
  ast : Option (Option Outline)
  /-- The id. -/
  ruleId : Option (Option String)
  /-- The record. -/
  data : Option Record
  /-- Whether the evaluation is traced. -/
  trace : Option (Option Bool)

/-- The parts of the body. -/
def shape : Shape Parts where
  names := ["ast", "ruleId", "data", "trace"]
  required := 4
  start := ⟨none, none, none, none⟩
  part parts key draft :=
    if key = "ast" then
      (draft.readOnce parts.ast (Draft.readOptional (Outline.ofDraft (maxLevels - 1)))).map
        ({ parts with ast := · })
    else if key = "ruleId" then
      (draft.readOnce parts.ruleId (Draft.readOptional Draft.readText)).map
        ({ parts with ruleId := · })
    else if key = "data" then
      (draft.readOnce parts.data (Draft.readRecord (maxLevels - 1))).map ({ parts with data := · })
    else
      (draft.readOnce parts.trace (Draft.readOptional Draft.readBool)).map
        ({ parts with trace := · })

/-- Reads the body. -/
def ofDraft (draft : Draft) : Except Misread EvaluateBody := do
  let parts ← draft.readShape shape maxLevels
  let data ← Draft.demand parts.data
  .ok { ast := parts.ast.join, ruleId := parts.ruleId.join, data, trace := parts.trace.join }

/-- The reason for refusing a body with no rule or with two. -/
def oneRuleReason : String := "ast 与 ruleId 必须且只能提供一个"

/-- What is wrong with the body as a whole. -/
def complaints (body : EvaluateBody) : List String :=
  if body.ast.isSome = body.ruleId.isSome then [complaint "__all__" oneRuleReason] else []

end EvaluateBody

/-! ## A tree to be checked -/

/-- Asks what is wrong with a tree. -/
structure ValidateBody where
  /-- The tree. -/
  ast : Outline

namespace ValidateBody

/-- The parts of the body. -/
def shape : Shape (Option Outline) where
  names := ["ast"]
  required := 1
  start := none
  part ast _ draft := draft.readOnce ast (Outline.ofDraft (maxLevels - 1))

/-- Reads the body. -/
def ofDraft (draft : Draft) : Except Misread ValidateBody := do
  let ast ← draft.readShape shape maxLevels
  let ast ← Draft.demand ast
  .ok { ast }

end ValidateBody

/-- Reads the body of a request and checks its fields. -/
def Request.readChecked {α : Type} (reader : Draft → Except Misread α)
    (complaints : α → List String) (request : Request) : Except Refusal α :=
  match request.read reader with
  | .error refusal => .error refusal
  | .ok body =>
    match complaints body with
    | [] => .ok body
    | lines => .error (.invalidRequest ("\n".intercalate lines))

end Criteria

import Criteria.Fault
import Criteria.Json.Basic

/-!
# Refusals

What a service says when it does not do what it was asked for.

## Main definitions

* `Criteria.Refusal` — the type.
* `Criteria.Refusal.status`, `Criteria.Refusal.code`, `Criteria.Refusal.json` — how a refusal is
  told.

## Implementation notes

A fault that is not the caller's is told without its details.
-/

set_option autoImplicit false
set_option relaxedAutoImplicit false

namespace Criteria

/-- The JSON form of an issue: its address and its message. -/
def Issue.json (issue : Issue) : Json :=
  .object [("path", .string issue.path), ("message", .string issue.defect.message)]

/-- Why a request is refused. -/
inductive Refusal where
  /-- A fault of the rules. -/
  | fault (cause : Fault)
  /-- The request cannot be understood, or asks for too much. -/
  | invalidRequest (reason : String)
  deriving DecidableEq

namespace Refusal

/-- The status of a refusal. -/
def status : Refusal → Nat
  | .fault (.ruleNotFound _) => 404
  | .fault cause => if cause.isCallersFault then 400 else 500
  | .invalidRequest _ => 400

/-- The code of a refusal. -/
def code : Refusal → String
  | .fault cause => if cause.isCallersFault then cause.code else "INTERNAL_ERROR"
  | .invalidRequest _ => "INVALID_REQUEST"

/-- The message of a refusal for those who may know its details. -/
def message : Refusal → String
  | .fault cause => cause.message
  | .invalidRequest reason => "请求参数无效: " ++ reason

/-- The message of a refusal for the caller. -/
def publicMessage (refusal : Refusal) : String :=
  if 500 ≤ refusal.status then "服务内部错误，请稍后重试" else refusal.message

/-- What a refusal brings along: the issues of a tree. -/
def data : Refusal → Json
  | .fault (.invalidTree issues) => .array (issues.map Issue.json)
  | _ => .null

/-- The JSON form of a refusal. -/
def json (refusal : Refusal) : Json :=
  .object [
    ("success", .bool false),
    ("code", .string refusal.code),
    ("message", .string refusal.publicMessage),
    ("data", refusal.data)]

end Refusal

end Criteria

import Criteria.Outline.Json
import Criteria.Service.Refusal
import Criteria.Store.Basic

/-!
# Answers

What a service says when it does what it was asked for, and all that it can say.

## Main definitions

* `Criteria.Answer` — the answers, and `Criteria.Answer.json`.
* `Criteria.Response` — an answer, a refusal, or no more than a status.
* `Criteria.Response.status`, `Criteria.Response.payload` — how a response is told.
-/

set_option autoImplicit false
set_option relaxedAutoImplicit false

namespace Criteria

/-- What a service says when it does what it was asked for. -/
inductive Answer where
  /-- The rule that was made. -/
  | created (definition : Definition)
  /-- The rule that others were combined to. -/
  | combined (rule : Rule)
  /-- Whether a rule holds, how that came about if it was traced, and how long it took. -/
  | evaluated (holds : Bool) (report : Option Report) (elapsed : Nat)
  /-- What is wrong with a tree. -/
  | validated (issues : List Issue)
  /-- How many rules are stored. -/
  | healthy (size : Nat)
  /-- The rule that was asked for. -/
  | found (definition : Definition)
  /-- The rule was removed. -/
  | deleted
  deriving DecidableEq

namespace Answer

/-- The JSON form of a rule that is kept: the members of its outline, and what it is kept with. -/
def definitionJson (definition : Definition) : Json :=
  .object (
    [ ("id", .string definition.id),
      ("name", .string definition.name),
      ("createdAt", .string definition.createdAt)]
    ++ (Outline.ofRule definition.rule).members)

/-- The JSON form of a report. -/
def reportJson (report : Report) (elapsed : Nat) : Json :=
  .object [
    ("matched", .bool report.run.holds),
    ("ruleId", .string report.ruleId),
    ("ruleName", .string report.ruleName),
    ("matchedConditions", .array (report.run.hits.map fun hit => .string hit.text)),
    ("evaluationTrace", .array (report.run.visits.map fun visit => .string visit.text)),
    ("evaluationTimeMs", .int elapsed)]

/-- The name of the service. -/
def serviceName : String := "rule-admin-service"

/-- What an answer brings along. -/
def data : Answer → Json
  | .created definition => definitionJson definition
  | .combined rule => (Outline.ofRule rule).json
  | .evaluated holds report elapsed =>
    .object (("result", .bool holds) ::
      (match report with
        | none => []
        | some report => [("trace", reportJson report elapsed)]))
  | .validated issues =>
    .object [("valid", .bool issues.isEmpty), ("errors", .array (issues.map Issue.json))]
  | .healthy size =>
    .object [
      ("status", .string "ok"),
      ("service", .string serviceName),
      ("rulesStored", .int size)]
  | .found definition => definitionJson definition
  | .deleted => .object [("deleted", .bool true)]

/-- The JSON form of an answer. -/
def json (answer : Answer) : Json :=
  .object [
    ("success", .bool true),
    ("code", .string "SUCCESS"),
    ("message", .string "操作成功"),
    ("data", answer.data)]

end Answer

/-- All that a service can say. -/
inductive Response where
  /-- It does what it was asked for. -/
  | answered (answer : Answer)
  /-- It does not. -/
  | refused (refusal : Refusal)
  /-- It does not know the path. -/
  | unknownPath
  /-- It does not know the method for the path. -/
  | unknownMethod
  /-- The id in the path is no text. -/
  | illegibleId
  deriving DecidableEq

/-- What the body of a reply is. -/
inductive Payload where
  /-- Nothing. -/
  | nothing
  /-- A JSON value. -/
  | json (value : Json)
  /-- A plain text. -/
  | plain (text : String)

namespace Response

/-- The status of a response. -/
def status : Response → Nat
  | .answered _ => 200
  | .refused refusal => refusal.status
  | .unknownPath => 404
  | .unknownMethod => 405
  | .illegibleId => 400

/-- The body of a response. -/
def payload : Response → Payload
  | .answered answer => .json answer.json
  | .refused refusal => .json refusal.json
  | .unknownPath => .nothing
  | .unknownMethod => .nothing
  | .illegibleId => .plain "Invalid URL: Invalid UTF-8 in `id`"

/-- The response that the result of an endpoint is. -/
def ofResult : Except Refusal Answer → Response
  | .ok answer => .answered answer
  | .error refusal => .refused refusal

end Response

end Criteria

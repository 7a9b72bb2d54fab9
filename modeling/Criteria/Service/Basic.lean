import Criteria.Combination
import Criteria.Outline.Validation
import Criteria.Service.Answer
import Criteria.Service.Body
import Criteria.Service.Metrics
import Criteria.Service.RequestId
import Criteria.Service.Route
import Criteria.Settings.Basic

/-!
# The service

Requests are answered one after the other over one store.

## Main definitions

* `Criteria.Outcome` — what comes of a request: a result, the store after it, and what is counted.
* `Criteria.Outcome.ofEndpoint` — what comes of a request to an endpoint.
* `Criteria.Service` — a service, `Criteria.Service.answer`, its reply to a request, and
  `Criteria.Service.answerAll`, its replies to several.

## Implementation notes

An endpoint does not count. It lists what there is to be counted, in the order in which it
happened, so that its result can be looked at without the counts and the other way round.
-/

set_option autoImplicit false
set_option relaxedAutoImplicit false

namespace Criteria

/-- What comes of a request to an endpoint. -/
structure Outcome where
  /-- The answer or the refusal. -/
  result : Except Refusal Answer
  /-- The store after the request. -/
  store : Store
  /-- What happened on the way. -/
  events : List Event

namespace Outcome

/-! ## Reading rules -/

/-- Reads one rule, unless its text is too long to be looked at. -/
def readRule (limits : EngineSettings) (text : String) : Except Refusal Rule × List Event :=
  if limits.maxRuleLength < text.length then
    (.error (.invalidRequest s!"规则文本长度 {text.length} 超过上限 {limits.maxRuleLength}"), [])
  else
    match Rule.ofText text with
    | .ok rule => (.ok rule, [.parsed "ok"])
    | .error fault => (.error (.fault fault), [.parsed fault.code])

/-- Reads rules up to the first that cannot be read. -/
def readRules (limits : EngineSettings) : List String → Except Refusal (List Rule) × List Event
  | [] => (.ok [], [])
  | text :: texts =>
    match readRule limits text with
    | (.error refusal, events) => (.error refusal, events)
    | (.ok rule, events) =>
      let (rules, more) := readRules limits texts
      (rules.map (rule :: ·), events ++ more)

/-! ## Endpoints -/

/-- The name of a rule that was not given one. -/
def defaultName : String := "unnamed"

/-- Makes a rule of a text and keeps it. -/
def create (limits : EngineSettings) (store : Store) (occasion : Occasion) (request : Request) :
    Outcome :=
  match request.readChecked CreateBody.ofDraft CreateBody.complaints with
  | .error refusal => ⟨.error refusal, store, []⟩
  | .ok body =>
    match readRule limits body.rule with
    | (.error refusal, events) => ⟨.error refusal, store, events⟩
    | (.ok rule, events) =>
      let definition : Definition :=
        { id := occasion.ruleId, name := body.name.getD defaultName, rule,
          createdAt := occasion.now }
      match store.save definition with
      | .error fault => ⟨.error (.fault fault), store, events⟩
      | .ok (_, store) => ⟨.ok (.created definition), store, events ++ [.stored store.size]⟩

/-- The word for the connective that rules are combined with if none is given. -/
def defaultOperator : String := "AND"

/-- The combination of some texts, and what happened on the way to it. -/
def combination (limits : EngineSettings) (body : CombineBody) :
    Except Refusal Rule × List Event :=
  if limits.maxRulesPerCombine < body.rules.length then
    (.error (.invalidRequest s!"一次最多组合 {limits.maxRulesPerCombine} 条规则"), [])
  else
    match Connective.read (body.operator.getD defaultOperator) with
    | .error reason => (.error (.fault (.invalidArgument reason)), [])
    | .ok op =>
      match readRules limits body.rules with
      | (.error refusal, events) => (.error refusal, events)
      | (.ok rules, events) => ((Rule.combine op rules).mapError .fault, events)

/-- Combines the rules of some texts. -/
def combine (limits : EngineSettings) (store : Store) (request : Request) : Outcome :=
  match request.readChecked CombineBody.ofDraft CombineBody.complaints with
  | .error refusal => ⟨.error refusal, store, []⟩
  | .ok body =>
    let (combined, events) := combination limits body
    ⟨combined.map .combined, store, events⟩

/-- A rule that is evaluated, with the id and the name it is kept under; both are empty for a rule
that is not kept. -/
structure Target where
  /-- The id. -/
  id : String
  /-- The name. -/
  name : String
  /-- The rule. -/
  rule : Rule

/-- The rule that a request wants to be evaluated. -/
def target (store : Store) (body : EvaluateBody) : Except Refusal Target :=
  match body.ast, body.ruleId with
  | some outline, _ =>
    match outline.toRule with
    | .ok rule => .ok ⟨"", "", rule⟩
    | .error fault => .error (.fault fault)
  | none, some id =>
    match store.load id with
    | .ok ⟨definition, _, _⟩ => .ok ⟨definition.id, definition.name, definition.rule⟩
    | .error fault => .error (.fault fault)
  | none, none => .error (.invalidRequest EvaluateBody.oneRuleReason)

/-- Evaluates a rule, with a report if it is traced. -/
def Target.evaluate (target : Target) (tracing : Bool) (record : Record) :
    Except Fault (Bool × Option Report) :=
  if tracing then
    (target.rule.reportAs target.id target.name true record).map fun report =>
      (report.run.holds, some report)
  else (target.rule.evaluate record).map fun holds => (holds, none)

/-- The word that evaluations with this result are counted under. -/
def evaluationWord : Except Fault (Bool × Option Report) → String
  | .ok (true, _) => "matched"
  | .ok (false, _) => "not_matched"
  | .error fault => fault.code

/-- Evaluates a rule on a record. -/
def evaluate (limits : EngineSettings) (store : Store) (occasion : Occasion) (request : Request) :
    Outcome :=
  match request.readChecked EvaluateBody.ofDraft EvaluateBody.complaints with
  | .error refusal => ⟨.error refusal, store, []⟩
  | .ok body =>
    match target store body with
    | .error refusal => ⟨.error refusal, store, []⟩
    | .ok target =>
      let evaluation := target.evaluate (body.trace.getD limits.traceEvaluations) body.data
      let events := [.evaluated (evaluationWord evaluation)]
      match evaluation with
      | .error fault => ⟨.error (.fault fault), store, events⟩
      | .ok (holds, report) => ⟨.ok (.evaluated holds report occasion.elapsed), store, events⟩

/-- Tells what is wrong with a tree. -/
def validate (store : Store) (request : Request) : Outcome :=
  match request.readChecked ValidateBody.ofDraft (fun _ => []) with
  | .error refusal => ⟨.error refusal, store, []⟩
  | .ok body => ⟨.ok (.validated body.ast.issues), store, []⟩

/-- Shows the rule under an id. -/
def fetch (store : Store) (id : String) : Outcome :=
  match store.load id with
  | .error fault => ⟨.error (.fault fault), store, []⟩
  | .ok compiled => ⟨.ok (.found compiled.definition), store, []⟩

/-- Removes the rule under an id. -/
def delete (store : Store) (id : String) : Outcome :=
  match store.delete id with
  | .error fault => ⟨.error (.fault fault), store, []⟩
  | .ok store => ⟨.ok .deleted, store, [.stored store.size]⟩

/-- What comes of a request to an endpoint, none if it needs an id that cannot be read. -/
def ofEndpoint (limits : EngineSettings) (store : Store) (occasion : Occasion)
    (request : Request) : Endpoint → Option Outcome
  | .create => some (create limits store occasion request)
  | .combine => some (combine limits store request)
  | .evaluate => some (evaluate limits store occasion request)
  | .validate => some (validate store request)
  | .health => some ⟨.ok (.healthy store.size), store, []⟩
  | .fetch segment => (Percent.decode? segment).map (fetch store)
  | .delete segment => (Percent.decode? segment).map (delete store)

end Outcome

/-! ## The service -/

/-- A service. -/
structure Service where
  /-- Its limits and habits. -/
  limits : EngineSettings
  /-- Its rules. -/
  store : Store
  /-- What it has counted. -/
  metrics : Metrics

/-- What a caller gets back. -/
structure Reply where
  /-- What the service says. -/
  response : Response
  /-- The body. -/
  payload : Payload
  /-- The id of the request. -/
  requestId : String

/-- The status of a reply. -/
def Reply.status (reply : Reply) : Nat := reply.response.status

namespace Service

/-- A service that has not been asked for anything. -/
def fresh (limits : EngineSettings) : Service := ⟨limits, .fresh, .empty⟩

/-- The response to a request, the store after it, and what happened on the way. -/
def respond (service : Service) (occasion : Occasion) (request : Request) :
    Response × Store × List Event :=
  match Route.ofPath? request.path with
  | none => (.unknownPath, service.store, [])
  | some route =>
    match route.endpoint? request.method with
    | none => (.unknownMethod, service.store, [])
    | some endpoint =>
      match Outcome.ofEndpoint service.limits service.store occasion request endpoint with
      | none => (.illegibleId, service.store, [])
      | some outcome => (.ofResult outcome.result, outcome.store, outcome.events)

/-- What a request is counted under. -/
def label (request : Request) (response : Response) : RequestLabel where
  method := request.method
  path := ((Route.ofPath? request.path).map Route.template).getD (String.ofList request.path)
  status := response.status

/-- The reply to a request, and the service after it. -/
def answer (service : Service) (occasion : Occasion) (request : Request) : Reply × Service :=
  let (response, store, events) := service.respond occasion request
  let reply : Reply :=
    { response
      payload := if request.method = "HEAD" then .nothing else response.payload
      requestId := RequestId.choose request.requestId occasion.requestId }
  let events := events ++ [.answered (label request response)]
  (reply, { service with store, metrics := service.metrics.recordAll events })

/-- The replies to several requests, and the service after them. -/
def answerAll (service : Service) : List (Occasion × Request) → List Reply × Service
  | [] => ([], service)
  | (occasion, request) :: rest =>
    let (reply, service) := service.answer occasion request
    let (replies, service) := service.answerAll rest
    (reply :: replies, service)

end Service

end Criteria

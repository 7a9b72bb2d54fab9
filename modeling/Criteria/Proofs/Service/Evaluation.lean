import Criteria.Proofs.Evaluation.Untraced
import Criteria.Proofs.Service.Endpoint

/-!
# What a service says about an evaluation

A service evaluates the rule that a request asks for, traced or not. What it says about the result
is what the rule comes to, or the code of a refusal.

## Main definitions

* `Criteria.Response.verdict?` — what a response says about an evaluation.
* `Criteria.Outcome.verdict` — the result of the evaluation that a request asks for.
* `Criteria.Request.readEvaluate` — what a request for an evaluation is read as.

## Main results

* `Criteria.Outcome.Target.map_fst_evaluate` — tracing does not change the result of an evaluation.
* `Criteria.Response.verdict?_evaluate` — what a service says about an evaluation.
-/

set_option autoImplicit false
set_option relaxedAutoImplicit false

namespace Criteria

/-- What a response says about an evaluation: its result, or the code of a refusal. -/
def Response.verdict? : Response → Option (Except String Bool)
  | .answered (.evaluated holds _ _) => some (.ok holds)
  | .refused refusal => some (.error refusal.code)
  | _ => none

namespace Outcome

/-- Tracing does not change the result of an evaluation. -/
theorem Target.map_fst_evaluate (target : Target) (tracing : Bool) (record : Record) :
    (target.evaluate tracing record).map Prod.fst = target.rule.evaluate record := by
  cases tracing with
  | false =>
    show ((target.rule.evaluate record).map _).map _ = _
    cases target.rule.evaluate record <;> rfl
  | true =>
    rw [← Rule.map_holds_runAt true record target.rule []]
    show (((target.rule.runAt true record []).map _).map _).map _ = _
    cases target.rule.runAt true record [] <;> rfl

/-- The result of the evaluation that a request asks for. -/
def verdict (store : Store) (body : EvaluateBody) : Except Refusal Bool :=
  (target store body).bind fun target => (target.rule.evaluate body.data).mapError .fault

end Outcome

variable (limits : EngineSettings) (store : Store) (occasion : Occasion) (request : Request)

/-- What a request for an evaluation is read as. -/
def Request.readEvaluate (request : Request) : Except Refusal EvaluateBody :=
  request.readChecked EvaluateBody.ofDraft EvaluateBody.complaints

/-- **What a service says about an evaluation:** the result of the evaluation that is asked for, or
the code of the refusal. -/
theorem Response.verdict?_evaluate :
    (ofResult (Outcome.evaluate limits store occasion request).result).verdict? =
      some ((request.readEvaluate.bind (Outcome.verdict store)).mapError Refusal.code) := by
  unfold Outcome.evaluate Request.readEvaluate
  cases request.readChecked EvaluateBody.ofDraft EvaluateBody.complaints with
  | error refusal => rfl
  | ok body =>
    show _ = some ((Outcome.verdict store body).mapError Refusal.code)
    unfold Outcome.verdict
    dsimp only
    cases Outcome.target store body with
    | error refusal => rfl
    | ok target =>
      have hresult := target.map_fst_evaluate (body.trace.getD limits.traceEvaluations) body.data
      show _ = some (((target.rule.evaluate body.data).mapError .fault).mapError Refusal.code)
      rw [← hresult]
      dsimp only
      cases target.evaluate (body.trace.getD limits.traceEvaluations) body.data <;> rfl

end Criteria

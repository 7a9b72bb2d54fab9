import Criteria.Proofs.Json.Shape
import Criteria.Proofs.Service.Posting

/-!
# Evaluations agree

A rule is evaluated by itself, with a report, as a compiled rule and by a service, traced or not.
All of these come to the same result or to the same fault.

## Main definitions

* `Criteria.EvaluateBody.untraced` — what a request asks for, tracing apart.
* `Criteria.EvaluateBody.Frame` — a body but for the answer to whether it is traced.

## Main results

* `Criteria.EvaluateBody.keepsCore_untraced` — no other part depends on the tracing.
* `Criteria.Service.verdict?_of_readEvaluate` — requests that are read alike, tracing apart, are
  answered alike.
* `Criteria.Rule.evaluations_agree` — all evaluations of a rule agree.
-/

set_option autoImplicit false
set_option relaxedAutoImplicit false

namespace Criteria

namespace EvaluateBody

/-- What a request for an evaluation asks for, tracing apart. -/
def untraced (body : EvaluateBody) : EvaluateBody := { body with trace := none }

/-- What has been read of a body, where of the tracing no more is known than whether it has been
read. -/
def Parts.untraced (parts : Parts) : Parts := { parts with trace := parts.trace.map fun _ => none }

/-- No other part depends on the tracing. -/
theorem keepsCore_untraced : shape.KeepsCore Parts.untraced := by
  rintro ⟨ast, ruleId, data, trace⟩ ⟨ast', ruleId', data', trace'⟩ name draft hcore
  simp only [Parts.untraced, Parts.mk.injEq] at hcore
  obtain ⟨rfl, rfl, rfl, htrace⟩ := hcore
  have hset : ∀ {α : Type} (part : Except Misread α) {set set' : α → Parts},
      (∀ a, (set a).untraced = (set' a).untraced) →
        (part.map set).map Parts.untraced = (part.map set').map Parts.untraced := by
    intro α part set set' h
    cases part with
    | error misread => rfl
    | ok a => exact congrArg Except.ok (h a)
  simp only [shape]
  by_cases hast : name = "ast"
  · rw [if_pos hast, if_pos hast]
    exact hset _ fun ast => by simp [Parts.untraced, htrace]
  rw [if_neg hast, if_neg hast]
  by_cases hruleId : name = "ruleId"
  · rw [if_pos hruleId, if_pos hruleId]
    exact hset _ fun ruleId => by simp [Parts.untraced, htrace]
  rw [if_neg hruleId, if_neg hruleId]
  by_cases hdata : name = "data"
  · rw [if_pos hdata, if_pos hdata]
    exact hset _ fun data => by simp [Parts.untraced, htrace]
  rw [if_neg hdata, if_neg hdata]
  -- The tracing itself is refused by both if it has been read before, and read by both if not.
  cases trace with
  | some tracing =>
    cases trace' with
    | some tracing' => rfl
    | none => cases htrace
  | none =>
    cases trace' with
    | some tracing' => cases htrace
    | none => rfl

/-- Whatever the answer, it is the tracing that has been read then. -/
theorem map_untraced_part_trace (parts : Parts) (tracing tracing' : Bool) :
    (shape.part parts "trace" (.bool tracing)).map Parts.untraced =
      (shape.part parts "trace" (.bool tracing')).map Parts.untraced := by
  obtain ⟨ast, ruleId, data, trace⟩ := parts
  cases trace <;> rfl

/-- A body but for the answer to whether it is traced. -/
inductive Frame where
  /-- An object that has the answer among its members. -/
  | members (front back : List (Option String × Draft))
  /-- A list, at the end of which the answer stands. -/
  | items (ast ruleId data : Draft)

/-- The body with the answer. -/
def Frame.draft (tracing : Bool) : Frame → Draft
  | members front back => .object (front ++ (some "trace", .bool tracing) :: back) true
  | items ast ruleId data => .array [ast, ruleId, data, .bool tracing] true

/-- Whatever the answer, the parts are read alike, tracing apart. -/
theorem Frame.map_untraced_readShape (frame : Frame) (tracing tracing' : Bool) :
    ((frame.draft tracing).readShape shape maxLevels).map Parts.untraced =
      ((frame.draft tracing').readShape shape maxLevels).map Parts.untraced := by
  cases frame with
  | members front back =>
    rw [draft, draft, Draft.readShape_object _ (by decide), Draft.readShape_object _ (by decide)]
    exact keepsCore_untraced.readMembers_slot (by simp [shape])
      (fun parts => map_untraced_part_trace parts tracing tracing') shape.start front back
  | items ast ruleId data =>
    -- The list is as long as it must be, so it is read as its items are.
    have hread : ∀ tracing, (draft tracing (items ast ruleId data)).readShape shape maxLevels =
        (shape.readItems shape.start ["ast", "ruleId", "data"] [ast, ruleId, data]).bind
          fun parts => shape.readItems parts ["trace"] [.bool tracing] := by
      intro tracing
      have hlength : ["ast", "ruleId", "data"].length = [ast, ruleId, data].length := rfl
      rw [← shape.readItems_append shape.start hlength, draft, Draft.readShape,
        if_neg (by decide)]
      show _ = shape.readItems shape.start shape.names [ast, ruleId, data, .bool tracing]
      cases shape.readItems shape.start shape.names [ast, ruleId, data, .bool tracing] <;> rfl
    rw [hread, hread]
    cases shape.readItems shape.start ["ast", "ruleId", "data"] [ast, ruleId, data] with
    | error misread => rfl
    | ok parts =>
      have hlast : ∀ tracing, shape.readItems parts ["trace"] [.bool tracing] =
          shape.part parts "trace" (.bool tracing) := by
        intro tracing
        rw [Shape.readItems]
        cases shape.part parts "trace" (.bool tracing) <;> rfl
      show (shape.readItems parts ["trace"] [.bool tracing]).map _ =
        (shape.readItems parts ["trace"] [.bool tracing']).map _
      rw [hlast, hlast]
      exact map_untraced_part_trace parts tracing tracing'

/-- Whatever the answer, the body is read alike, tracing apart. -/
theorem Frame.map_untraced_ofDraft (frame : Frame) (tracing tracing' : Bool) :
    (ofDraft (frame.draft tracing)).map untraced =
      (ofDraft (frame.draft tracing')).map untraced := by
  unfold ofDraft
  refine map_bind_congr (frame.map_untraced_readShape tracing tracing') ?_
  rintro ⟨ast, ruleId, data, trace⟩ ⟨ast', ruleId', data', trace'⟩ hparts
  simp only [Parts.untraced, Parts.mk.injEq] at hparts
  obtain ⟨rfl, rfl, rfl, -⟩ := hparts
  cases data <;> rfl

end EvaluateBody

/-- Requests of which the bodies are read alike, tracing apart, are read alike if they differ in
nothing else. -/
theorem Request.map_untraced_readEvaluate (request : Request) {body : String} {draft draft' : Draft}
    (hdraft : Draft.IsText request.body.toList draft) (hdraft' : Draft.IsText body.toList draft')
    (hsize : request.body.utf8ByteSize ≤ maxBodySize ↔ body.utf8ByteSize ≤ maxBodySize)
    (hread : (EvaluateBody.ofDraft draft).map EvaluateBody.untraced =
      (EvaluateBody.ofDraft draft').map EvaluateBody.untraced) :
    request.readEvaluate.map EvaluateBody.untraced =
      { request with body := body }.readEvaluate.map EvaluateBody.untraced := by
  have hbody : (request.read EvaluateBody.ofDraft).map EvaluateBody.untraced =
      ({ request with body := body }.read EvaluateBody.ofDraft).map EvaluateBody.untraced := by
    unfold read
    show Except.map _ _ = Except.map _ (if request.isJson = false then _
      else if maxBodySize < body.utf8ByteSize then _
      else (Json.decode EvaluateBody.ofDraft body).mapError _)
    by_cases hjson : request.isJson = false
    · rw [if_pos hjson, if_pos hjson]
    rw [if_neg hjson, if_neg hjson]
    by_cases hlarge : maxBodySize < body.utf8ByteSize
    · rw [if_pos hlarge, if_pos (by omega)]
    rw [if_neg hlarge, if_neg (by omega), Json.decode_of_isText _ hdraft,
      Json.decode_of_isText _ hdraft']
    have hmapError : ∀ (refuse : Misread → Refusal) (result : Except Misread EvaluateBody),
        (result.mapError refuse).map EvaluateBody.untraced =
          (result.map EvaluateBody.untraced).mapError refuse := by
      intro refuse result
      cases result <;> rfl
    rw [hmapError, hmapError, hread]
  rw [readEvaluate, readEvaluate, readChecked_eq_bind, readChecked_eq_bind]
  refine map_bind_congr hbody ?_
  rintro ⟨ast, ruleId, data, trace⟩ ⟨ast', ruleId', data', trace'⟩ huntraced
  cases huntraced
  -- Nobody complains about the tracing.
  have hcomplaints : EvaluateBody.complaints ⟨ast, ruleId, data, trace'⟩ =
      EvaluateBody.complaints ⟨ast, ruleId, data, trace⟩ := rfl
  rw [hcomplaints]
  cases EvaluateBody.complaints ⟨ast, ruleId, data, trace⟩ <;> rfl

namespace Service

variable (service : Service) (occasion occasion' : Occasion) {request request' : Request}

/-- Requests that are read alike, tracing apart, are answered alike. -/
theorem verdict?_of_readEvaluate (hrequest : request.endpoint? = some .evaluate)
    (hrequest' : request'.endpoint? = some .evaluate)
    (hread : request.readEvaluate.map EvaluateBody.untraced =
      request'.readEvaluate.map EvaluateBody.untraced) :
    ∃ verdict, (service.answer occasion request).1.response.verdict? = some verdict ∧
      (service.answer occasion' request').1.response.verdict? = some verdict := by
  rw [service.response_evaluate occasion hrequest, service.response_evaluate occasion' hrequest',
    Response.verdict?_evaluate, Response.verdict?_evaluate]
  refine ⟨_, rfl, ?_⟩
  have hverdict : (request.readEvaluate.bind (Outcome.verdict service.store)).map id =
      (request'.readEvaluate.bind (Outcome.verdict service.store)).map id := by
    refine map_bind_congr hread ?_
    rintro ⟨ast, ruleId, data, trace⟩ ⟨ast', ruleId', data', trace'⟩ hbody
    cases hbody
    rfl
  rw [Except.map_id] at hverdict
  exact congrArg (fun verdict => some (verdict.mapError Refusal.code)) hverdict.symm

end Service

/-- The body of a request for a condition to be evaluated. -/
def linkBody (tracing : Bool) : Json :=
  .object [("ast", (Outline.ofRule (.condition ⟨"a", .eq, .bool true⟩)).json),
    ("data", .object [("a", .bool true)]), ("trace", .bool tracing)]

/-- The request for a condition to be evaluated. -/
def evaluateLink (tracing : Bool) : Request :=
  .post "/api/rules/evaluate" (linkBody tracing).text

/-- **All evaluations of a rule agree.** On a record, a rule, its reports and the reports of every
compiled rule that it is the rule of all fail with the same fault, or all hold if the rule does;
then the reports find the same conditions whether they are traced or not, no visits unless they
are, and carry the id and the name of the compiled rule.

What a service says about an evaluation does not depend on the tracing either: it says the same
about two requests that are read alike, tracing apart, and about a request in the body of which
one answer to whether it is traced stands for another.

**Proof sketch.** Runs with and without visits agree by induction on the rule. A service evaluates
what it reads from a body; of the parts that it reads one by one, no other depends on the tracing,
and it has no part in what is evaluated. -/
theorem Rule.evaluations_agree (rule : Rule) (record : Record) :
    ((∃ fault, rule.evaluate record = .error fault ∧
      ∀ tracing, rule.report tracing record = .error fault ∧
        ∀ compiled : Compiled, compiled.definition.rule = rule →
          compiled.report tracing record = .error fault) ∨
    ∃ (hits : List Hit) (visits : List Visit) (holds : Bool), rule.evaluate record = .ok holds ∧
      ∀ tracing, rule.report tracing record =
          .ok ⟨"", "", ⟨holds, hits, if tracing then visits else []⟩⟩ ∧
        ∀ compiled : Compiled, compiled.definition.rule = rule →
          compiled.report tracing record = .ok ⟨compiled.definition.id, compiled.definition.name,
            ⟨holds, hits, if tracing then visits else []⟩⟩) ∧
    ∀ (service : Service) (occasion occasion' : Occasion) (request : Request),
      request.endpoint? = some .evaluate →
      (∀ request' : Request, request'.endpoint? = some .evaluate →
        request.readEvaluate.map EvaluateBody.untraced =
          request'.readEvaluate.map EvaluateBody.untraced →
        ∃ verdict, (service.answer occasion request).1.response.verdict? = some verdict ∧
          (service.answer occasion' request').1.response.verdict? = some verdict) ∧
      ∀ (frame : EvaluateBody.Frame) (tracing tracing' : Bool) (body : String),
        Draft.IsText request.body.toList (frame.draft tracing) →
        Draft.IsText body.toList (frame.draft tracing') →
        (request.body.utf8ByteSize ≤ Request.maxBodySize ↔
          body.utf8ByteSize ≤ Request.maxBodySize) →
        ∃ verdict, (service.answer occasion request).1.response.verdict? = some verdict ∧
          (service.answer occasion' { request with body := body }).1.response.verdict? =
            some verdict := by
  refine ⟨?_, ?_⟩
  · rcases reportAs_eq record rule with ⟨fault, heval, hreport⟩ | ⟨run, heval, hreport⟩
    · refine .inl ⟨fault, heval, fun tracing => ⟨hreport _ _ tracing, ?_⟩⟩
      rintro compiled rfl
      exact hreport _ _ tracing
    · refine .inr ⟨run.hits, run.visits, run.holds, heval, fun tracing => ⟨hreport _ _ tracing, ?_⟩⟩
      rintro compiled rfl
      exact hreport _ _ tracing
  · intro service occasion occasion' request hrequest
    refine ⟨fun request' => service.verdict?_of_readEvaluate occasion occasion' hrequest, ?_⟩
    intro frame tracing tracing' body hdraft hdraft' hsize
    refine service.verdict?_of_readEvaluate occasion occasion' hrequest hrequest ?_
    exact request.map_untraced_readEvaluate hdraft hdraft' hsize
      (frame.map_untraced_ofDraft tracing tracing')

/-- A condition that holds is said to hold, traced or not. -/
theorem Rule.evaluations_agree_link :
    ((Service.fresh {}).answer ⟨"1", "request", "now", 0⟩ (evaluateLink true)).1.response.verdict? =
      some (.ok true) ∧
    ((Service.fresh {}).answer ⟨"2", "other", "then", 1⟩ (evaluateLink false)).1.response.verdict? =
      some (.ok true) := by
  have hsize : ∀ tracing, (linkBody tracing).text.utf8ByteSize ≤ Request.maxBodySize := by
    decide +kernel
  have hposts : (evaluateLink true).Posts .evaluate (linkBody true).text :=
    Request.posts_post (by decide +kernel) (hsize true)
  have htrue : ((Service.fresh {}).answer ⟨"1", "request", "now", 0⟩
      (evaluateLink true)).1.response.verdict? = some (.ok true) := by
    rw [Service.verdict?_posts_evaluate _ _ hposts (Json.isText_text (linkBody true))]
    decide +kernel
  have hdraft : ∀ tracing, (linkBody tracing).draft = (EvaluateBody.Frame.members
      [(some "ast", (Outline.ofRule (.condition ⟨"a", .eq, .bool true⟩)).json.draft),
        (some "data", (Json.object [("a", .bool true)]).draft)] []).draft tracing := by
    intro tracing
    rfl
  obtain ⟨verdict, hleft, hright⟩ := ((Rule.evaluations_agree (.condition ⟨"a", .eq, .bool true⟩)
    .empty).2 (Service.fresh {}) ⟨"1", "request", "now", 0⟩ ⟨"2", "other", "then", 1⟩
    (evaluateLink true) hposts.endpoint).2 _ true false (linkBody false).text
    (hdraft true ▸ Json.isText_text (linkBody true))
    (hdraft false ▸ Json.isText_text (linkBody false))
    (iff_of_true (hsize true) (hsize false))
  rw [htrue] at hleft
  obtain rfl := Option.some.inj hleft
  exact ⟨htrue, hright⟩

end Criteria

import Criteria.Proofs.Service.Members

/-!
# What a service says when it refuses

A service never fails by itself: whatever it is asked, it answers, or says what the caller has to
mend. What it says in a body agrees with the status of the reply, and the issues of a tree that it
refuses to evaluate are those that it finds when the tree is checked.

## Main definitions

* `Criteria.Reply.valid?`, `Criteria.Reply.issues?` — what a reply says about a tree.
* `Criteria.Request.Validates` — a request for an outline to be checked.
* `Criteria.Exchange.Clear` — a reply that says what has failed.

## Main results

* `Criteria.Refusal.status_eq_404_iff`, `Criteria.Refusal.data_ne_null_iff` — what goes with a code.
* `Criteria.Outcome.create_cases_of_body`, `Criteria.Outcome.evaluate_cases_of_valid` — all that can
  come of a body that is accepted.
* `Criteria.Request.Posts.validates`, `Criteria.Request.Posts.readEvaluate` — the text of an outline
  is read as that outline at both endpoints that take one.
* `Criteria.Service.speaks_clearly` — every reply of a service says what has failed.
-/

set_option autoImplicit false
set_option relaxedAutoImplicit false

namespace Criteria

/-! ## Refusals -/

namespace Refusal

/-- The status 404 goes with the code of a rule that is not found. -/
theorem status_eq_404_iff (refusal : Refusal) :
    refusal.status = 404 ↔ refusal.code = "RULE_NOT_FOUND" := by
  cases refusal with
  | invalidRequest reason => simp [status, code]
  | fault cause => cases cause <;> simp [status, code, Fault.isCallersFault, Fault.code]

/-- Data go with the code of a tree that has issues. -/
theorem data_ne_null_iff (refusal : Refusal) :
    refusal.data ≠ .null ↔ refusal.code = "VALIDATION_ERROR" := by
  cases refusal with
  | invalidRequest reason => simp [data, code]
  | fault cause => cases cause <;> simp [data, code, Fault.isCallersFault, Fault.code]

/-- The code of a tree that has issues goes with nothing else. -/
theorem exists_issues_of_code {refusal : Refusal} (h : refusal.code = "VALIDATION_ERROR") :
    ∃ issues, refusal = .fault (.invalidTree issues) := by
  cases refusal with
  | invalidRequest reason => simp [code] at h
  | fault cause =>
    cases cause with
    | invalidTree issues => exact ⟨issues, rfl⟩
    | _ => simp [code, Fault.isCallersFault, Fault.code] at h

/-- A refusal that the caller can mend is no internal error. -/
theorem not_internal {refusal : Refusal} (h : refusal ≠ .fault .unreadableJson) :
    refusal.status ≠ 500 ∧ refusal.code ≠ "INTERNAL_ERROR" := by
  cases refusal with
  | invalidRequest reason => simp [status, code]
  | fault cause =>
    cases cause with
    | unreadableJson => exact absurd rfl h
    | _ => simp [status, code, Fault.isCallersFault, Fault.code]

end Refusal

/-! ## Outcomes -/

/-- What a request for a rule to be made is read as. -/
def Request.readCreate (request : Request) : Except Refusal CreateBody :=
  request.readChecked CreateBody.ofDraft CreateBody.complaints

/-- What a request for a tree to be checked is read as. -/
def Request.readValidate (request : Request) : Except Refusal ValidateBody :=
  request.readChecked ValidateBody.ofDraft fun _ => []

namespace Outcome

variable {limits : EngineSettings} {store : Store} {occasion : Occasion} {request : Request}
  {endpoint : Endpoint} {outcome : Outcome}

/-- What is refused is an error. -/
theorem result_of_refused {refusal : Refusal} (h : outcome.response = .refused refusal) :
    outcome.result = .error refusal := by
  unfold response at h
  cases hresult : outcome.result with
  | ok answer =>
    rw [hresult] at h
    cases h
  | error refusal' =>
    rw [hresult] at h
    exact congrArg Except.error (Response.refused.inj h)

namespace Course

/-- No request is refused for a fault that is not the caller's. -/
theorem refusal_ne (h : Course store request endpoint outcome) {refusal : Refusal}
    (hresult : outcome.result = .error refusal) : refusal ≠ .fault .unreadableJson := by
  cases h with
  | misread count hendpoint hfault =>
    obtain rfl := Except.error.inj hresult
    cases hfault <;> simp
  | failed hfault =>
    obtain rfl := Except.error.inj hresult
    cases hfault <;> simp
  | invalid | unusable | defective | unknown =>
    obtain rfl := Except.error.inj hresult
    simp
  | _ => cases hresult

/-- A request is refused with issues only if they are those of the tree that shall be evaluated. -/
theorem exists_outline (h : Course store request endpoint outcome) {issues : List Issue}
    (hresult : outcome.result = .error (.fault (.invalidTree issues))) :
    ∃ body outline, endpoint = .evaluate ∧ request.readEvaluate = .ok body ∧
      body.ast = some outline ∧ issues = outline.issues ∧ issues ≠ [] := by
  cases h with
  | defective hbody hast hissues =>
    cases hresult
    exact ⟨_, _, rfl, hbody, hast, rfl, hissues⟩
  | misread count hendpoint hfault => cases hresult; cases hfault
  | failed hfault => cases hresult; cases hfault
  | _ => cases hresult

end Course

/-- All that can come of an accepted request for a rule to be made: the rule of its text; a text
that is too long; a text that is no rule. -/
theorem create_cases_of_body (limits : EngineSettings) (store : Store) {body : CreateBody}
    (hbody : request.readCreate = .ok body) (hid : occasion.ruleId ≠ "") :
    (∃ definition, (create limits store occasion request).result = .ok (.created definition) ∧
      body.rule.length ≤ limits.maxRuleLength ∧ Rule.ofText body.rule = .ok definition.rule) ∨
    (∃ reason, (create limits store occasion request).result = .error (.invalidRequest reason) ∧
      limits.maxRuleLength < body.rule.length) ∨
    ∃ fault, (create limits store occasion request).result = .error (.fault fault) ∧
      Rule.ofText body.rule = .error fault := by
  have hread : request.readChecked CreateBody.ofDraft CreateBody.complaints = .ok body := hbody
  unfold create
  rw [hread]
  dsimp only
  by_cases hlong : limits.maxRuleLength < body.rule.length
  · rw [readRule, if_pos hlong]
    exact .inr (.inl ⟨_, rfl, hlong⟩)
  · rw [readRule, if_neg hlong]
    cases hrule : Rule.ofText body.rule with
    | error fault => exact .inr (.inr ⟨fault, rfl, rfl⟩)
    | ok rule =>
      have hsaved : ∃ after, store.save
          ⟨occasion.ruleId, body.name.getD defaultName, rule, occasion.now⟩ =
            .ok (occasion.ruleId, after) :=
        store.save_of_issues hid (Rule.issues_of_ofText hrule)
      obtain ⟨after, hsave⟩ := hsaved
      dsimp only
      rw [hsave]
      exact .inl ⟨_, rfl, Nat.not_lt.1 hlong, rfl⟩

/-- All that can come of an accepted request for a valid tree to be evaluated: a result, or a fault
of the record. -/
theorem evaluate_cases_of_valid (limits : EngineSettings) (store : Store)
    (occasion : Occasion) {body : EvaluateBody} {outline : Outline}
    (hbody : request.readEvaluate = .ok body) (hast : body.ast = some outline)
    (hissues : outline.issues = []) :
    (∃ answer, (evaluate limits store occasion request).result = .ok answer) ∨
      ∃ fault, (evaluate limits store occasion request).result = .error (.fault fault) ∧
        fault.IsMisfit := by
  have hread : request.readChecked EvaluateBody.ofDraft EvaluateBody.complaints = .ok body := hbody
  obtain ⟨rule, hrule, -⟩ := Outline.exists_toRule hissues
  have htarget : target store body = .ok ⟨"", "", rule⟩ := by
    unfold target
    rw [hast]
    dsimp only
    rw [hrule]
  unfold evaluate
  rw [hread]
  dsimp only
  rw [htarget]
  dsimp only
  have hevaluate := Target.map_fst_evaluate ⟨"", "", rule⟩
    (body.trace.getD limits.traceEvaluations) body.data
  cases hresult : Target.evaluate ⟨"", "", rule⟩ (body.trace.getD limits.traceEvaluations)
    body.data with
  | ok result => exact .inl ⟨_, rfl⟩
  | error fault =>
    rw [hresult] at hevaluate
    exact .inr ⟨fault, rfl, Rule.isMisfit_of_evaluate hevaluate.symm⟩

end Outcome

/-! ## Replies -/

namespace Reply

variable (reply : Reply)

/-- Whether a tree is valid, as a reply tells it. -/
def valid? : Option Bool := (reply.data?.bind (Json.member? "valid")).bind Json.bool?

/-- The issues of a tree, as a reply tells them. -/
def issues? : Option Json := reply.data?.bind (Json.member? "errors")

end Reply

/-- A request for an outline to be checked. -/
structure Request.Validates (request : Request) (outline : Outline) : Prop where
  /-- It leads where trees are checked. -/
  endpoint : request.endpoint? = some .validate
  /-- Its body is read as the outline. -/
  body : request.readValidate = .ok ⟨outline⟩

/-- The text of an outline is read as the outline where it comes in a body, if it is not too deep
for that. -/
theorem Outline.ofDraft_json {outline : Outline} (hdepth : outline.depth < maxLevels) :
    ofDraft (maxLevels - 1) outline.json.draft = .ok outline := by
  have hlevels : outline.depth ≤ maxLevels - 1 := Nat.le_sub_one_of_lt hdepth
  have hread := ofDraft_members outline (maxLevels - 1) ignored_nil
  rw [List.nil_append, ← draft_json, if_pos hlevels] at hread
  exact hread

/-- The text of an outline can be posted to be checked. -/
theorem Request.Posts.validates {request : Request} {outline : Outline}
    (h : request.Posts .validate (Json.objectText [("ast", outline.text)]))
    (hdepth : outline.depth < maxLevels) : request.Validates outline where
  endpoint := h.endpoint
  body := by
    have hbody : Draft.IsText (Json.objectText [("ast", outline.text)]).toList
        (.object [(some "ast", outline.json.draft)] true) :=
      Json.isText_objectText [("ast", outline.text, outline.json.draft)]
        (List.forall_mem_singleton.mpr (Json.isText_text outline.json))
    unfold readValidate
    rw [h.readChecked hbody, ValidateBody.ofDraft_ast, Outline.ofDraft_json hdepth]
    rfl

/-- The text of an outline can be posted to be evaluated, with that of a record. -/
theorem Request.Posts.readEvaluate {request : Request} {outline : Outline} {data : String}
    {record : Record} (hdata : Record.ofJson data = .ok record)
    (h : request.Posts .evaluate (Json.objectText [("ast", outline.text), ("data", data)]))
    (hdepth : outline.depth < maxLevels) :
    request.readEvaluate = .ok ⟨some outline, none, record, none⟩ := by
  obtain ⟨draft, hdatatext, hrecord⟩ := Record.exists_isText_of_ofJson hdata
  have hbody : Draft.IsText (Json.objectText [("ast", outline.text), ("data", data)]).toList
      (.object [(some "ast", outline.json.draft), (some "data", draft)] true) :=
    Json.isText_objectText [("ast", outline.text, outline.json.draft), ("data", data, draft)]
      (by simpa using ⟨Json.isText_text outline.json, hdatatext⟩)
  have hread : EvaluateBody.ofDraft
      (.object [(some "ast", outline.json.draft), (some "data", draft)] true) =
        .ok ⟨some outline, none, record, none⟩ := by
    have hast := EvaluateBody.ofDraft_ast outline.draftMembers draft
    rw [← Outline.draft_json, Outline.ofDraft_json hdepth, hrecord] at hast
    exact hast
  unfold Request.readEvaluate
  rw [h.readChecked hbody, hread]
  rfl

/-- A reply that says what has failed, if anything has. -/
structure Exchange.Clear (limits : EngineSettings) (exchange : Exchange) : Prop where
  /-- The service does not fail by itself. -/
  internal : exchange.reply.status ≠ 500 ∧ exchange.reply.code? ≠ some "INTERNAL_ERROR"
  /-- A body says whether the status is that of an answer. -/
  success : ∀ value, exchange.reply.payload = .json value →
    exchange.reply.success? = some (decide (exchange.reply.status = 200))
  /-- Where there is a body, the status 404 goes with the code of a rule that is not found. -/
  unknown : ∀ value, exchange.reply.payload = .json value →
    (exchange.reply.status = 404 ↔ exchange.reply.code? = some "RULE_NOT_FOUND")
  /-- A refusal brings data along if and only if it has the code of a tree with issues. -/
  data : ∀ value, exchange.reply.payload = .json value → exchange.reply.status ≠ 200 →
    (exchange.reply.data? ≠ some .null ↔ exchange.reply.code? = some "VALIDATION_ERROR")
  /-- These data are the issues that are found when the same tree is checked, of which there are
  some. -/
  issues : exchange.reply.code? = some "VALIDATION_ERROR" → ∃ body outline issues,
    exchange.request.endpoint? = some .evaluate ∧ exchange.request.readEvaluate = .ok body ∧
      body.ast = some outline ∧ issues ≠ [] ∧ exchange.reply.data? = some (.array issues) ∧
      ∀ (service : Service) (occasion : Occasion) (other : Request), other.Validates outline →
        (service.exchange occasion other).reply.issues? = some (.array issues)
  /-- A rule is made of a text that is a rule and not too long, and of no other. -/
  create : ∀ body, exchange.request.endpoint? = some .create →
    exchange.request.readCreate = .ok body →
      (exchange.reply.status = 200 ↔ body.rule.length ≤ limits.maxRuleLength ∧
        ∃ rule, Rule.ofText body.rule = .ok rule) ∧
      (exchange.reply.status ≠ 200 → ∃ code ∈ ["INVALID_REQUEST", "LEX_ERROR", "SYNTAX_ERROR"],
        exchange.reply.code? = some code)
  /-- A tree that is found valid when it is checked is evaluated, unless the record does not
  fit. -/
  evaluate : ∀ body outline, exchange.request.endpoint? = some .evaluate →
    exchange.request.readEvaluate = .ok body → body.ast = some outline →
    ∀ (service : Service) (occasion : Occasion) (other : Request), other.Validates outline →
      (service.exchange occasion other).reply.valid? = some true →
        exchange.reply.status ≠ 200 → ∃ code ∈ ["MISSING_ATTRIBUTE", "TYPE_MISMATCH"],
          exchange.reply.code? = some code

namespace Service

variable (service : Service) (occasion : Occasion) (request : Request)

/-- A body holds the answer or the refusal of the reply. -/
theorem body_cases {value : Json}
    (h : (service.exchange occasion request).reply.payload = .json value) :
    (∃ answer, (service.exchange occasion request).reply.response = .answered answer ∧
      (service.exchange occasion request).reply.payload = .json answer.json) ∨
    ∃ refusal, (service.exchange occasion request).reply.response = .refused refusal ∧
      (service.exchange occasion request).reply.payload = .json refusal.json := by
  rcases service.payload_cases occasion request with hnothing | hpayload
  · rw [hnothing] at h
    cases h
  · rw [hpayload] at h
    cases hresponse : (service.exchange occasion request).reply.response with
    | answered answer => exact .inl ⟨answer, rfl, by rw [hpayload, hresponse]; rfl⟩
    | refused refusal => exact .inr ⟨refusal, rfl, by rw [hpayload, hresponse]; rfl⟩
    | _ =>
      rw [hresponse] at h
      cases h

/-- A service refuses nothing for a fault that is not the caller's. -/
theorem refusal_ne {refusal : Refusal}
    (h : (service.exchange occasion request).reply.response = .refused refusal) :
    refusal ≠ .fault .unreadableJson := by
  cases service.course occasion request with
  | nowhere hresponse =>
    rw [h] at hresponse
    cases hresponse
  | endpoint hendpoint hcourse hresponse =>
    exact hcourse.refusal_ne (Outcome.result_of_refused (hresponse.symm.trans h))

/-- A code other than that of an answer is that of the refusal. -/
theorem exists_refusal_of_code {code : String}
    (h : (service.exchange occasion request).reply.code? = some code) (hcode : code ≠ "SUCCESS") :
    ∃ refusal, (service.exchange occasion request).reply.response = .refused refusal ∧
      (service.exchange occasion request).reply.payload = .json refusal.json ∧
      refusal.code = code := by
  obtain ⟨value, hvalue⟩ := Reply.exists_json_of_code? h
  rcases service.body_cases occasion request hvalue with
    ⟨answer, hresponse, hpayload⟩ | ⟨refusal, hresponse, hpayload⟩
  · rw [(Reply.read_answered hpayload).2.1] at h
    exact absurd (Option.some.inj h).symm hcode
  · rw [(Reply.read_refused hpayload).2.1] at h
    exact ⟨refusal, hresponse, hpayload, Option.some.inj h⟩

/-- A service does not fail by itself. -/
theorem not_internal : (service.exchange occasion request).reply.status ≠ 500 ∧
    (service.exchange occasion request).reply.code? ≠ some "INTERNAL_ERROR" := by
  constructor
  · rw [Reply.status]
    cases hresponse : (service.exchange occasion request).reply.response with
    | refused refusal =>
      exact (Refusal.not_internal (service.refusal_ne occasion request hresponse)).1
    | _ => simp [Response.status]
  · intro hcode
    obtain ⟨refusal, hresponse, -, hinternal⟩ :=
      service.exists_refusal_of_code occasion request hcode (by decide)
    exact (Refusal.not_internal (service.refusal_ne occasion request hresponse)).2 hinternal

/-- What a service says about an outline that is checked. -/
theorem read_of_validates {outline : Outline} (h : request.Validates outline) :
    (service.exchange occasion request).reply.issues? =
        some (.array (outline.issues.map Issue.json)) ∧
      (service.exchange occasion request).reply.valid? = some outline.issues.isEmpty := by
  have hbody : request.readChecked ValidateBody.ofDraft (fun _ => []) = .ok ⟨outline⟩ := h.body
  have hresponse : (service.exchange occasion request).reply.response =
      .answered (.validated outline.issues) := by
    refine (service.response_validate occasion h.endpoint).trans ?_
    rw [Outcome.validate, hbody]
    rfl
  have hpayload := service.payload_of_posted occasion h.endpoint (by decide)
  rw [hresponse] at hpayload
  unfold Reply.issues? Reply.valid?
  rw [(Reply.read_answered hpayload).2.2]
  exact ⟨rfl, rfl⟩

/-- The issues in a body are those that are found when the same tree is checked. -/
theorem issues_of_code
    (h : (service.exchange occasion request).reply.code? = some "VALIDATION_ERROR") :
    ∃ body outline issues, request.endpoint? = some .evaluate ∧ request.readEvaluate = .ok body ∧
      body.ast = some outline ∧ issues ≠ [] ∧
      (service.exchange occasion request).reply.data? = some (.array issues) ∧
      ∀ (service : Service) (occasion : Occasion) (other : Request), other.Validates outline →
        (service.exchange occasion other).reply.issues? = some (.array issues) := by
  obtain ⟨refusal, hresponse, hpayload, hcode⟩ :=
    service.exists_refusal_of_code occasion request h (by decide)
  obtain ⟨issues, rfl⟩ := Refusal.exists_issues_of_code hcode
  cases service.course occasion request with
  | nowhere hbare =>
    rw [hresponse] at hbare
    cases hbare
  | endpoint hendpoint hcourse hreply =>
    obtain ⟨body, outline, rfl, hbody, hast, rfl, hissues⟩ :=
      hcourse.exists_outline (Outcome.result_of_refused (hreply.symm.trans hresponse))
    refine ⟨body, outline, outline.issues.map Issue.json, hendpoint, hbody, hast, ?_,
      (Reply.read_refused hpayload).2.2,
      fun service occasion other hother => (service.read_of_validates occasion other hother).1⟩
    exact fun hnil => hissues (List.map_eq_nil_iff.1 hnil)

/-- A rule is made of a text that is a rule and not too long, and of no other. -/
theorem create_clear {body : CreateBody} (hendpoint : request.endpoint? = some .create)
    (hbody : request.readCreate = .ok body) (hid : occasion.ruleId ≠ "") :
    ((service.exchange occasion request).reply.status = 200 ↔
      body.rule.length ≤ service.limits.maxRuleLength ∧ ∃ rule, Rule.ofText body.rule = .ok rule) ∧
    ((service.exchange occasion request).reply.status ≠ 200 →
      ∃ code ∈ ["INVALID_REQUEST", "LEX_ERROR", "SYNTAX_ERROR"],
        (service.exchange occasion request).reply.code? = some code) := by
  have hresponse : (service.exchange occasion request).reply.response =
      .ofResult (Outcome.create service.limits service.store occasion request).result :=
    congrArg Prod.fst (service.respond_of_endpoint? occasion hendpoint rfl)
  have hcode := Reply.code?_of_payload (service.payload_of_posted occasion hendpoint (by decide))
  rw [hcode, Reply.status, hresponse]
  rcases Outcome.create_cases_of_body service.limits service.store hbody hid with
    ⟨definition, hresult, hlength, hread⟩ | ⟨reason, hresult, hlong⟩ | ⟨fault, hresult, hread⟩
  · rw [hresult]
    exact ⟨iff_of_true rfl ⟨hlength, _, hread⟩, fun hstatus => absurd rfl hstatus⟩
  · rw [hresult]
    refine ⟨iff_of_false (Refusal.status_ne (.invalidRequest reason)) ?_, ?_⟩
    · exact fun h => absurd h.1 (Nat.not_le.2 hlong)
    · exact fun _ => ⟨"INVALID_REQUEST", by decide, rfl⟩
  · rw [hresult]
    refine ⟨iff_of_false (Refusal.status_ne (.fault fault)) ?_, ?_⟩
    · rintro ⟨-, rule, hrule⟩
      rw [hread] at hrule
      cases hrule
    · intro _
      cases Rule.isMisreading_of_ofText hread with
      | unrecognized character offset => exact ⟨"LEX_ERROR", by decide, rfl⟩
      | unexpected found expected offset => exact ⟨"SYNTAX_ERROR", by decide, rfl⟩

/-- A tree that is found valid when it is checked is evaluated, unless the record does not fit. -/
theorem evaluate_clear {body : EvaluateBody} {outline : Outline}
    (hendpoint : request.endpoint? = some .evaluate) (hbody : request.readEvaluate = .ok body)
    (hast : body.ast = some outline) (hissues : outline.issues = [])
    (hstatus : (service.exchange occasion request).reply.status ≠ 200) :
    ∃ code ∈ ["MISSING_ATTRIBUTE", "TYPE_MISMATCH"],
      (service.exchange occasion request).reply.code? = some code := by
  have hresponse : (service.exchange occasion request).reply.response =
      .ofResult (Outcome.evaluate service.limits service.store occasion request).result :=
    service.response_evaluate occasion hendpoint
  have hcode := Reply.code?_of_payload (service.payload_of_posted occasion hendpoint (by decide))
  rw [Reply.status, hresponse] at hstatus
  rw [hcode, hresponse]
  rcases Outcome.evaluate_cases_of_valid service.limits service.store occasion hbody hast
    hissues with ⟨answer, hresult⟩ | ⟨fault, hresult, hmisfit⟩
  · rw [hresult] at hstatus
    exact absurd rfl hstatus
  · rw [hresult]
    cases hmisfit with
    | missingAttribute name => exact ⟨"MISSING_ATTRIBUTE", by decide, rfl⟩
    | typeMismatch comparator expected actual => exact ⟨"TYPE_MISMATCH", by decide, rfl⟩

/-- Every exchange in a log is over one of the requests, under the limits of the service. -/
theorem exists_request_of_mem_log {service : Service} {requests : List (Occasion × Request)}
    {exchange : Exchange} (h : exchange ∈ service.log requests) :
    ∃ (before : Service) (occasion : Occasion) (request : Request),
      before.limits = service.limits ∧ (occasion, request) ∈ requests ∧
        exchange = before.exchange occasion request := by
  induction requests generalizing service with
  | nil => cases h
  | cons asked rest ih =>
    rcases List.mem_cons.1 h with rfl | hrest
    · exact ⟨service, asked.1, asked.2, rfl, List.mem_cons_self, rfl⟩
    · obtain ⟨before, occasion, request, hlimits, hmem, hmade⟩ := ih hrest
      exact ⟨before, occasion, request, hlimits, List.mem_cons_of_mem _ hmem, hmade⟩

/-- One exchange says what has failed. -/
theorem clear_exchange (hid : occasion.ruleId ≠ "") :
    (service.exchange occasion request).Clear service.limits where
  internal := service.not_internal occasion request
  success := by
    intro value hvalue
    rcases service.body_cases occasion request hvalue with
      ⟨answer, hresponse, hpayload⟩ | ⟨refusal, hresponse, hpayload⟩
    · rw [(Reply.read_answered hpayload).1, Reply.status_of_answered hresponse]
      rfl
    · rw [(Reply.read_refused hpayload).1, Reply.status, hresponse]
      exact congrArg some (decide_eq_false refusal.status_ne).symm
  unknown := by
    intro value hvalue
    rcases service.body_cases occasion request hvalue with
      ⟨answer, hresponse, hpayload⟩ | ⟨refusal, hresponse, hpayload⟩
    · rw [(Reply.read_answered hpayload).2.1, Reply.status_of_answered hresponse]
      decide
    · rw [(Reply.read_refused hpayload).2.1, Reply.status, hresponse, Option.some_inj]
      exact refusal.status_eq_404_iff
  data := by
    intro value hvalue hstatus
    rcases service.body_cases occasion request hvalue with
      ⟨answer, hresponse, hpayload⟩ | ⟨refusal, hresponse, hpayload⟩
    · exact absurd (Reply.status_of_answered hresponse) hstatus
    · rw [(Reply.read_refused hpayload).2.1, (Reply.read_refused hpayload).2.2, Option.some_inj,
        ne_eq, Option.some_inj]
      exact refusal.data_ne_null_iff
  issues := service.issues_of_code occasion request
  create := fun body hendpoint hbody => service.create_clear occasion request hendpoint hbody hid
  evaluate := by
    intro body outline hendpoint hbody hast checker moment other hother hvalid hstatus
    have hissues : outline.issues = [] := by
      rw [(checker.read_of_validates moment other hother).2] at hvalid
      exact List.isEmpty_iff.1 (Option.some.inj hvalid)
    exact service.evaluate_clear occasion request hendpoint hbody hast hissues hstatus

/-- **A service says what has failed,** whatever it is asked, if the ids that it draws for rules are
not empty. It never fails by itself. Its bodies agree with the status of the reply. Data come with
the code of a tree that has issues, and are the issues that are found when the tree is checked. An
accepted request for a rule to be made is answered if and only if its text is a rule and not too
long; and an accepted request for a tree to be evaluated that is found valid when it is checked is
answered, unless the record does not fit.

**Proof sketch.** Every request ends in one of the ways of `Service.Course`. A text is refused for
what is read in it, a rule for what the record has, and a tree for its issues; a rule that was read
has none, so that it can be kept. No way ends in a fault that is not the caller's. -/
theorem speaks_clearly (limits : EngineSettings) {requests : List (Occasion × Request)}
    (hids : ∀ asked ∈ requests, asked.1.ruleId ≠ "") :
    ∀ exchange ∈ (fresh limits).log requests, exchange.Clear limits := by
  intro exchange hexchange
  obtain ⟨service, occasion, request, hlimits, hmem, rfl⟩ := exists_request_of_mem_log hexchange
  have hclear := service.clear_exchange occasion request (hids _ hmem)
  rw [hlimits] at hclear
  exact hclear

/-- A tree without a value. -/
def valueless : Outline := ⟨"operand", none, none, none⟩

/-- The request for that tree to be evaluated on no attributes. -/
def valuelessAsked : Request :=
  .post "/api/rules/evaluate" (Json.objectText [("ast", valueless.text), ("data", "\x7b\x7d")])

/-- The request for that tree to be checked. -/
def valuelessChecked : Request :=
  .post "/api/rules/validate" (Json.objectText [("ast", valueless.text)])

/-- A run of one request, for the tree to be evaluated. -/
def valuelessRun : List (Occasion × Request) := [(⟨"1", "x", "now", 0⟩, valuelessAsked)]

/-- The tree of that run is refused, with the issues that are found when it is checked. -/
theorem speaks_clearly_valueless :
    (∀ asked ∈ valuelessRun, asked.1.ruleId ≠ "") ∧
    ((fresh {}).log valuelessRun).map (fun exchange => exchange.reply.code?) =
      [some "VALIDATION_ERROR"] ∧
    ∀ exchange ∈ (fresh {}).log valuelessRun, ∃ issues ≠ [],
      exchange.reply.data? = some (.array issues) ∧
      ((fresh {}).exchange ⟨"2", "y", "now", 0⟩ valuelessChecked).reply.issues? =
        some (.array issues) := by
  have hids : ∀ asked ∈ valuelessRun, asked.1.ruleId ≠ "" := by decide
  have hcodes : ((fresh {}).log valuelessRun).map (fun exchange => exchange.reply.code?) =
      [some "VALIDATION_ERROR"] := by decide +kernel
  have hempty : Record.ofJson "\x7b\x7d" = .ok .empty := by rfl
  have hread : valuelessAsked.readEvaluate = .ok ⟨some valueless, none, .empty, none⟩ :=
    Request.Posts.readEvaluate hempty
      (Request.posts_post (by decide +kernel) (by decide +kernel)) (by decide)
  have hchecked : valuelessChecked.Validates valueless :=
    Request.Posts.validates (Request.posts_post (by decide +kernel) (by decide +kernel))
      (by decide)
  refine ⟨hids, hcodes, fun exchange hmem => ?_⟩
  have hclear := speaks_clearly {} hids exchange hmem
  have hcode : exchange.reply.code? = some "VALIDATION_ERROR" := by
    have hmap := List.mem_map_of_mem (f := fun exchange => exchange.reply.code?) hmem
    rw [hcodes] at hmap
    exact List.mem_singleton.1 hmap
  have hasked : exchange.request = valuelessAsked := by
    have hmade : exchange = (fresh {}).exchange ⟨"1", "x", "now", 0⟩ valuelessAsked :=
      List.mem_singleton.1 hmem
    rw [hmade]
    rfl
  obtain ⟨body, outline, issues, -, hbody, hast, hissues, hdata, hsame⟩ := hclear.issues hcode
  rw [hasked, hread] at hbody
  obtain rfl := Except.ok.inj hbody
  obtain rfl := Option.some.inj hast
  exact ⟨issues, hissues, hdata, hsame _ _ _ hchecked⟩

end Service

end Criteria

import Criteria.Proofs.Evaluation.Typing
import Criteria.Proofs.Rule.Combination
import Criteria.Proofs.Service.Effect
import Criteria.Proofs.Service.Evaluation
import Criteria.Proofs.Token.Obstacle

/-!
# The course of a request

There are not many ways in which a request to an endpoint can end. Each of them is one line of the
definition below, with the result, the store and the events that belong together.

## Main definitions

* `Criteria.Fault.IsMisreading`, `Criteria.Fault.IsMisfit` — the faults of texts that are no rules,
  and of records that a rule cannot be evaluated on.
* `Criteria.Outcome.Course` — the ways in which a request to an endpoint can end.
* `Criteria.Service.Course` — the ways in which any request can end.
* `Criteria.Exchange.label` — what an exchange is counted under.

## Main results

* `Criteria.Rule.isMisreading_of_ofText`, `Criteria.Rule.isMisfit_of_evaluate` — nothing else comes
  of reading a text or of evaluating a rule.
* `Criteria.Outcome.course_ofEndpoint`, `Criteria.Service.course` — every request ends in one of
  these ways.
-/

set_option autoImplicit false
set_option relaxedAutoImplicit false

namespace Criteria

/-! ## Faults by their origin -/

namespace Fault

/-- The faults of texts that are no rules. -/
inductive IsMisreading : Fault → Prop where
  /-- No token starts with a character. -/
  | unrecognized (character : Char) (offset : Nat) : IsMisreading (.unrecognized character offset)
  /-- The tokens are no rule. -/
  | unexpected (found expected : String) (offset : Nat) :
      IsMisreading (.unexpected found expected offset)

/-- The faults of records that a rule cannot be evaluated on. -/
inductive IsMisfit : Fault → Prop where
  /-- An attribute is missing. -/
  | missingAttribute (name : String) : IsMisfit (.missingAttribute name)
  /-- Values cannot be compared. -/
  | typeMismatch (comparator expected actual : String) :
      IsMisfit (.typeMismatch comparator expected actual)

end Fault

namespace Rule

/-- A text that is no rule is refused for what is read there. -/
theorem isMisreading_of_ofText {text : String} {fault : Fault} (h : ofText text = .error fault) :
    fault.IsMisreading := by
  unfold ofText at h
  cases hscan : Token.scan text.toList with
  | error reason =>
    rw [hscan] at h
    obtain rfl := Except.error.inj h
    obtain ⟨before, rest, tokens, -, -, -, hobstacle⟩ := Token.scan_eq_error_iff.1 hscan
    cases hobstacle with
    | stray hstray => exact .unrecognized _ _
    | numeral hnumeral hbeyond => exact .unexpected _ _ _
  | ok tokens =>
    rw [hscan] at h
    have hrun : (Parse.run tokens).mapError (·.fault text.length) = .error fault := h
    cases hparse : Parse.run tokens with
    | ok rule =>
      rw [hparse] at hrun
      cases hrun
    | error obstacle =>
      rw [hparse] at hrun
      obtain rfl := Except.error.inj hrun
      obtain ⟨found, expected⟩ := obstacle
      cases found with
      | none => exact .unexpected _ _ _
      | some token => exact .unexpected _ _ _

/-- A rule that fails on a record fails because of what the record has. -/
theorem isMisfit_of_evaluate {rule : Rule} {record : Record} {fault : Fault}
    (h : rule.evaluate record = .error fault) : fault.IsMisfit := by
  obtain ⟨c, -, hrejects⟩ := exists_of_evaluate_eq_error h
  cases hrejects with
  | missing hmissing => exact .missingAttribute _
  | unsupported hfield hsupports => exact .typeMismatch _ _ _
  | unlike hfield hsupports hkind => exact .typeMismatch _ _ _

end Rule

/-- The event that an evaluation with some result is counted as. -/
def Event.ofHolds (holds : Bool) : Event := .evaluated (if holds then "matched" else "not_matched")

namespace Outcome

/-! ## Reading rules -/

variable {limits : EngineSettings} {store : Store} {occasion : Occasion} {request : Request}

/-- The events of as many texts that were read as rules. -/
def readings (count : Nat) : List Event := List.replicate count (.parsed "ok")

/-- One more text was read. -/
theorem readings_succ (count : Nat) : readings 1 ++ readings count = readings (count + 1) := rfl

/-- A text that is not too long and is a rule is read, and counted as such. -/
theorem readRule_eq_ok_iff {text : String} {rule : Rule} {events : List Event} :
    readRule limits text = (.ok rule, events) ↔
      text.length ≤ limits.maxRuleLength ∧ Rule.ofText text = .ok rule ∧ events = readings 1 := by
  unfold readRule
  by_cases hlong : limits.maxRuleLength < text.length
  · rw [if_pos hlong]
    simp [Nat.not_le.2 hlong]
  · rw [if_neg hlong]
    cases Rule.ofText text with
    | error fault => simp
    | ok read => simp [Nat.not_lt.1 hlong, readings, eq_comm]

/-- The ways in which texts are not read as rules: one of them is too long, or is no rule; those in
front of it were read. -/
inductive Unread : Refusal → List Event → Prop where
  /-- A text is too long. -/
  | long (reason : String) (count : Nat) : Unread (.invalidRequest reason) (readings count)
  /-- A text is no rule. -/
  | misread {fault : Fault} (count : Nat) (hfault : fault.IsMisreading) :
      Unread (.fault fault) (readings count ++ [.parsed fault.code])

theorem unread_of_readRule {text : String} {refusal : Refusal} {events : List Event}
    (h : readRule limits text = (.error refusal, events)) : Unread refusal events := by
  unfold readRule at h
  split at h
  · obtain ⟨hrefusal, rfl⟩ := Prod.mk.inj h
    obtain rfl := Except.error.inj hrefusal
    exact .long _ 0
  · split at h
    · cases h
    · next fault hread =>
      obtain ⟨hrefusal, rfl⟩ := Prod.mk.inj h
      obtain rfl := Except.error.inj hrefusal
      exact .misread 0 (Rule.isMisreading_of_ofText hread)

/-- Texts are read one after the other, up to the first that is not read. -/
theorem readRules_cases (limits : EngineSettings) (texts : List String) :
    (∃ rules count, readRules limits texts = (.ok rules, readings count)) ∨
      ∃ refusal events, readRules limits texts = (.error refusal, events) ∧
        Unread refusal events := by
  induction texts with
  | nil => exact .inl ⟨[], 0, rfl⟩
  | cons text texts ih =>
    unfold readRules
    obtain ⟨result, events, hread⟩ : ∃ result events, readRule limits text = (result, events) :=
      ⟨_, _, rfl⟩
    rw [hread]
    cases result with
    | error refusal => exact .inr ⟨refusal, events, rfl, unread_of_readRule hread⟩
    | ok rule =>
      obtain ⟨-, -, rfl⟩ := readRule_eq_ok_iff.1 hread
      rcases ih with ⟨rules, count, hrest⟩ | ⟨refusal, more, hrest, hunread⟩
      · rw [hrest]
        exact .inl ⟨rule :: rules, count + 1, rfl⟩
      · rw [hrest]
        refine .inr ⟨refusal, readings 1 ++ more, rfl, ?_⟩
        cases hunread with
        | long reason count =>
          rw [readings_succ]
          exact .long reason (count + 1)
        | misread count hfault =>
          rw [← List.append_assoc, readings_succ]
          exact .misread (count + 1) hfault

/-! ## All that can come of a request -/

/-- The ways in which a request to an endpoint can end. -/
inductive Course (store : Store) (request : Request) : Endpoint → Outcome → Prop where
  /-- The request cannot be understood, or asks for too much. -/
  | invalid (endpoint : Endpoint) (reason : String) (count : Nat) :
      Course store request endpoint ⟨.error (.invalidRequest reason), store, readings count⟩
  /-- A text is no rule. -/
  | misread {endpoint : Endpoint} {fault : Fault} (count : Nat)
      (hendpoint : endpoint = .create ∨ endpoint = .combine) (hfault : fault.IsMisreading) :
      Course store request endpoint
        ⟨.error (.fault fault), store, readings count ++ [.parsed fault.code]⟩
  /-- The rules of some texts are not made or combined for another reason. -/
  | unusable {endpoint : Endpoint} (reason : String) (count : Nat)
      (hendpoint : endpoint = .create ∨ endpoint = .combine) :
      Course store request endpoint
        ⟨.error (.fault (.invalidArgument reason)), store, readings count⟩
  /-- A rule is made. -/
  | created (definition : Definition) (after : Store) :
      Course store request .create
        ⟨.ok (.created definition), after, readings 1 ++ [.stored after.size]⟩
  /-- Rules are combined. -/
  | combined (rule : Rule) (count : Nat) :
      Course store request .combine ⟨.ok (.combined rule), store, readings count⟩
  /-- The tree that shall be evaluated has issues. -/
  | defective {body : EvaluateBody} {outline : Outline} (hbody : request.readEvaluate = .ok body)
      (hast : body.ast = some outline) (hissues : outline.issues ≠ []) :
      Course store request .evaluate ⟨.error (.fault (.invalidTree outline.issues)), store, []⟩
  /-- No rule is stored under an id. -/
  | unknown (endpoint : Endpoint) (id : String) :
      Course store request endpoint ⟨.error (.fault (.ruleNotFound id)), store, []⟩
  /-- A rule cannot be evaluated on a record. -/
  | failed {fault : Fault} (hfault : fault.IsMisfit) :
      Course store request .evaluate ⟨.error (.fault fault), store, [.evaluated fault.code]⟩
  /-- A rule is evaluated. -/
  | evaluated (holds : Bool) (report : Option Report) (elapsed : Nat) :
      Course store request .evaluate
        ⟨.ok (.evaluated holds report elapsed), store, [.ofHolds holds]⟩
  /-- A tree is checked. -/
  | validated (issues : List Issue) :
      Course store request .validate ⟨.ok (.validated issues), store, []⟩
  /-- The service tells how it is. -/
  | healthy : Course store request .health ⟨.ok (.healthy store.size), store, []⟩
  /-- A rule is shown. -/
  | found (segment : List Char) (definition : Definition) :
      Course store request (.fetch segment) ⟨.ok (.found definition), store, []⟩
  /-- A rule is removed. -/
  | deleted (segment : List Char) (after : Store) :
      Course store request (.delete segment) ⟨.ok .deleted, after, [.stored after.size]⟩

/-- A body that is not read makes a request invalid. -/
theorem exists_of_readChecked {α : Type} {reader : Draft → Except Misread α}
    {complaints : α → List String} {refusal : Refusal}
    (h : request.readChecked reader complaints = .error refusal) :
    ∃ reason, refusal = .invalidRequest reason := by
  unfold Request.readChecked at h
  split at h
  · next refusal' hread =>
    obtain rfl := Except.error.inj h
    unfold Request.read at hread
    split_ifs at hread
    · exact ⟨_, (Except.error.inj hread).symm⟩
    · exact ⟨_, (Except.error.inj hread).symm⟩
    · cases hdecode : Json.decode reader request.body with
      | ok body =>
        rw [hdecode] at hread
        cases hread
      | error misread =>
        rw [hdecode] at hread
        exact ⟨_, (Except.error.inj hread).symm⟩
  · split at h
    · cases h
    · exact ⟨_, (Except.error.inj h).symm⟩

/-- What is not read is refused. -/
theorem course_of_unread {endpoint : Endpoint} {refusal : Refusal} {events : List Event}
    (hendpoint : endpoint = .create ∨ endpoint = .combine) (h : Unread refusal events) :
    Course store request endpoint ⟨.error refusal, store, events⟩ := by
  cases h with
  | long reason count => exact .invalid endpoint reason count
  | misread count hfault => exact .misread count hendpoint hfault

theorem course_create : Course store request .create (create limits store occasion request) := by
  unfold create
  split
  · next refusal hbody =>
    obtain ⟨reason, rfl⟩ := exists_of_readChecked hbody
    exact .invalid _ reason 0
  · next body hbody =>
    split
    · next refusal events hread => exact course_of_unread (.inl rfl) (unread_of_readRule hread)
    · next rule events hread =>
      obtain ⟨-, hrule, rfl⟩ := readRule_eq_ok_iff.1 hread
      dsimp only
      split
      · next fault hsave =>
        -- The rule is valid, so that nothing but the id can be wrong.
        rw [Store.save_eq] at hsave
        split_ifs at hsave with hid hissues
        · obtain rfl := Except.error.inj hsave
          exact .unusable _ 1 (.inl rfl)
        · exact absurd (Rule.issues_of_ofText hrule) hissues
      · next after hsave => exact .created _ after

/-- What comes of the texts that shall be combined. -/
theorem course_combination (limits : EngineSettings) (body : CombineBody) :
    Course store request .combine
      ⟨(combination limits body).1.map .combined, store, (combination limits body).2⟩ := by
  unfold combination
  split
  · exact .invalid _ _ 0
  · cases hword : Connective.read (body.operator.getD defaultOperator) with
    | error reason => exact .unusable reason 0 (.inr rfl)
    | ok op =>
      dsimp only
      rcases readRules_cases limits body.rules with
        ⟨rules, count, hread⟩ | ⟨refusal, events, hread, hunread⟩
      · rw [hread]
        dsimp only
        cases hcombine : Rule.combine op rules with
        | ok rule => exact .combined rule count
        | error fault =>
          obtain ⟨reason, rfl⟩ := Rule.exists_reason_of_combine hcombine
          exact .unusable reason count (.inr rfl)
      · rw [hread]
        exact course_of_unread (.inr rfl) hunread

theorem course_combine : Course store request .combine (combine limits store request) := by
  unfold combine
  split
  · next refusal hbody =>
    obtain ⟨reason, rfl⟩ := exists_of_readChecked hbody
    exact .invalid _ reason 0
  · next body hbody => exact course_combination limits body

theorem course_evaluate :
    Course store request .evaluate (evaluate limits store occasion request) := by
  unfold evaluate
  split
  · next refusal hbody =>
    obtain ⟨reason, rfl⟩ := exists_of_readChecked hbody
    exact .invalid _ reason 0
  · next body hbody =>
    split
    · next refusal htarget =>
      unfold target at htarget
      split at htarget
      · next outline hast =>
        rcases Outline.toRule_iff_valid.1 outline with ⟨hissues, herror⟩ | ⟨-, rule, hrule, -⟩
        · rw [herror] at htarget
          obtain rfl := Except.error.inj htarget
          exact .defective hbody hast hissues
        · rw [hrule] at htarget
          cases htarget
      · next id hast hid =>
        unfold Store.load at htarget
        cases hfound : store.rules.get? id with
        | some compiled =>
          rw [hfound] at htarget
          cases htarget
        | none =>
          rw [hfound] at htarget
          obtain rfl := Except.error.inj htarget
          exact .unknown _ id
      · obtain rfl := Except.error.inj htarget
        exact .invalid _ _ 0
    · next found htarget =>
      dsimp only
      have hevaluate := found.map_fst_evaluate (body.trace.getD limits.traceEvaluations) body.data
      cases hresult : found.evaluate (body.trace.getD limits.traceEvaluations) body.data with
      | error fault =>
        rw [hresult] at hevaluate
        exact .failed (Rule.isMisfit_of_evaluate hevaluate.symm)
      | ok result =>
        obtain ⟨holds, report⟩ := result
        cases holds with
        | true => exact .evaluated true report _
        | false => exact .evaluated false report _

/-- **Every request to an endpoint ends in one of these ways.** -/
theorem course_ofEndpoint {endpoint : Endpoint} {outcome : Outcome}
    (h : ofEndpoint limits store occasion request endpoint = some outcome) :
    Course store request endpoint outcome := by
  cases endpoint with
  | create =>
    obtain rfl := Option.some.inj h
    exact course_create
  | combine =>
    obtain rfl := Option.some.inj h
    exact course_combine
  | evaluate =>
    obtain rfl := Option.some.inj h
    exact course_evaluate
  | validate =>
    obtain rfl := Option.some.inj h
    unfold validate
    split
    · next refusal hbody =>
      obtain ⟨reason, rfl⟩ := exists_of_readChecked hbody
      exact .invalid _ reason 0
    · next body hbody => exact .validated _
  | health =>
    obtain rfl := Option.some.inj h
    exact .healthy
  | fetch segment =>
    obtain ⟨id, -, rfl⟩ := Option.map_eq_some_iff.1 h
    unfold fetch Store.load
    cases hfound : store.rules.get? id with
    | some compiled => exact .found segment _
    | none => exact .unknown _ id
  | delete segment =>
    obtain ⟨id, -, rfl⟩ := Option.map_eq_some_iff.1 h
    unfold delete Store.delete
    cases hfound : store.rules.get? id with
    | some compiled => exact .deleted segment _
    | none => exact .unknown _ id

end Outcome

/-! ## Whole exchanges -/

/-- The response that an outcome comes to. -/
def Outcome.response (outcome : Outcome) : Response := .ofResult outcome.result

/-- What an exchange is counted under. -/
def Exchange.label (exchange : Exchange) : RequestLabel :=
  Service.label exchange.request exchange.reply.response

/-- Only a status is told. -/
inductive Response.IsBare : Response → Prop where
  /-- The path is unknown. -/
  | unknownPath : IsBare .unknownPath
  /-- The method is unknown for the path. -/
  | unknownMethod : IsBare .unknownMethod
  /-- The id in the path is no text. -/
  | illegibleId : IsBare .illegibleId

namespace Service

/-- The ways in which a request can end: `next` is the service behind it. -/
inductive Course (service : Service) (exchange : Exchange) (next : Service) : Prop where
  /-- The request leads to an endpoint. -/
  | endpoint {endpoint : Endpoint} {outcome : Outcome}
      (hendpoint : exchange.request.endpoint? = some endpoint)
      (hcourse : Outcome.Course service.store exchange.request endpoint outcome)
      (hresponse : exchange.reply.response = outcome.response)
      (hstore : next.store = outcome.store)
      (hmetrics : next.metrics = service.metrics.recordAll
        (outcome.events ++ [.answered exchange.label]))
  /-- The request comes to nothing. -/
  | nowhere (hresponse : exchange.reply.response.IsBare) (hstore : next.store = service.store)
      (hmetrics : next.metrics = service.metrics.recordAll [.answered exchange.label])

variable (service : Service) (occasion : Occasion) (request : Request)

/-- A request that comes to nothing at any endpoint is told a status, and nothing else happens. -/
theorem respond_nowhere (h : request.endpoint?.bind
      (Outcome.ofEndpoint service.limits service.store occasion request) = none) :
    (service.respond occasion request).1.IsBare ∧
      (service.respond occasion request).2 = (service.store, []) := by
  unfold Request.endpoint? at h
  unfold respond
  cases hroute : Route.ofPath? request.path with
  | none => exact ⟨.unknownPath, rfl⟩
  | some route =>
    dsimp only
    rw [hroute, Option.bind_some] at h
    cases hendpoint : route.endpoint? request.method with
    | none => exact ⟨.unknownMethod, rfl⟩
    | some endpoint =>
      dsimp only
      rw [hendpoint, Option.bind_some] at h
      rw [h]
      exact ⟨.illegibleId, rfl⟩

/-- **Every request ends in one of these ways.** -/
theorem course : service.Course (service.exchange occasion request)
    (service.answer occasion request).2 := by
  have hmetrics : (service.answer occasion request).2.metrics = service.metrics.recordAll
      ((service.respond occasion request).2.2 ++
        [.answered (label request (service.respond occasion request).1)]) := rfl
  cases hbind : request.endpoint?.bind
      (Outcome.ofEndpoint service.limits service.store occasion request) with
  | none =>
    obtain ⟨hresponse, hrest⟩ := service.respond_nowhere occasion request hbind
    rw [hrest] at hmetrics
    exact .nowhere hresponse (congrArg Prod.fst hrest) hmetrics
  | some outcome =>
    obtain ⟨endpoint, hendpoint, houtcome⟩ := Option.bind_eq_some_iff.1 hbind
    have hrespond := service.respond_of_endpoint? occasion hendpoint houtcome
    have hevents : (service.respond occasion request).2.2 = outcome.events :=
      congrArg (·.2.2) hrespond
    rw [hevents] at hmetrics
    exact .endpoint hendpoint (Outcome.course_ofEndpoint houtcome) (congrArg Prod.fst hrespond)
      (congrArg (·.2.1) hrespond) hmetrics

end Service

end Criteria

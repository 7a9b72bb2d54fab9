import Criteria.Proofs.Service.Members

/-!
# What a service counts

The counts of a service agree with what it has said: with its replies, their codes and their
results, and with the number of rules that it keeps.

## Main definitions

* `Criteria.Exchange.Finds` — an exchange in which a rule is evaluated, with some result.
* `Criteria.Service.Reconciled` — the counts of a service agree with a log.

## Main results

* `Criteria.Metrics.recordAll_eq_add_countP` — a figure that some events raise by one.
* `Criteria.Service.figure_after` — a figure that some exchanges raise by one, behind a run.
* `Criteria.Service.counts_what_it_says` — the counts of every service agree with its log.

## Implementation notes

A count is looked at as a figure, a function of all counts, of which only one thing matters: which
events raise it by one. What holds of one figure in a run then holds of all of them.
-/

set_option autoImplicit false
set_option relaxedAutoImplicit false

namespace Criteria

/-! ## Events that are counted -/

/-- The label that an event counts a request under. -/
def Event.label? : Event → Option RequestLabel
  | .answered label => some label
  | _ => none

namespace Metrics

/-- A figure that is raised by one by some events, and by no others, counts them. -/
theorem recordAll_eq_add_countP {figure : Metrics → Nat} {p : Event → Prop} [DecidablePred p]
    (h : ∀ metrics event, figure (record metrics event) =
      figure metrics + if p event then 1 else 0)
    (metrics : Metrics) (events : List Event) :
    figure (metrics.recordAll events) = figure metrics + events.countP p := by
  induction events generalizing metrics with
  | nil => rfl
  | cons event events ih =>
    show figure ((metrics.record event).recordAll events) = _
    rw [ih, h, List.countP_cons]
    simp only [decide_eq_true_eq]
    omega

theorem total_requests_record (metrics : Metrics) (event : Event) :
    (metrics.record event).requests.total =
      metrics.requests.total + if event.label?.any fun _ => true then 1 else 0 := by
  cases event <;> simp [record, Event.label?, Tally.total_add]

theorem count_requests_record (label : RequestLabel) (metrics : Metrics) (event : Event) :
    (metrics.record event).requests.count label = metrics.requests.count label +
      if event.label?.any fun other => other = label then 1 else 0 := by
  cases event <;> simp [record, Event.label?, Tally.count_add]

theorem count_parses_record (status : String) (metrics : Metrics) (event : Event) :
    (metrics.record event).parses.count status =
      metrics.parses.count status + if event = .parsed status then 1 else 0 := by
  cases event <;> simp [record, Tally.count_add]

theorem count_evaluations_record (outcome : String) (metrics : Metrics) (event : Event) :
    (metrics.record event).evaluations.count outcome =
      metrics.evaluations.count outcome + if event = .evaluated outcome then 1 else 0 := by
  cases event <;> simp [record, Tally.count_add]

/-- Events that do not change the store leave the number of rules as it was. -/
theorem rulesStored_recordAll {events : List Event} (h : ∀ size, .stored size ∉ events)
    (metrics : Metrics) : (metrics.recordAll events).rulesStored = metrics.rulesStored := by
  induction events generalizing metrics with
  | nil => rfl
  | cons event events ih =>
    have hrest : ∀ size, .stored size ∉ events :=
      fun size hmem => h size (List.mem_cons_of_mem _ hmem)
    show ((metrics.record event).recordAll events).rulesStored = _
    rw [ih hrest]
    cases event with
    | stored size => exact absurd (List.mem_cons_self) (h size)
    | _ => rfl

end Metrics

/-- The event that a refusal with some code is counted as. -/
inductive Event.Stands : Event → String → Prop where
  /-- No token starts with a character. -/
  | unrecognized : Stands (.parsed "LEX_ERROR") "LEX_ERROR"
  /-- The tokens are no rule. -/
  | unexpected : Stands (.parsed "SYNTAX_ERROR") "SYNTAX_ERROR"
  /-- An attribute is missing. -/
  | missingAttribute : Stands (.evaluated "MISSING_ATTRIBUTE") "MISSING_ATTRIBUTE"
  /-- Values cannot be compared. -/
  | typeMismatch : Stands (.evaluated "TYPE_MISMATCH") "TYPE_MISMATCH"

/-! ## What an outcome is counted as -/

namespace Outcome

variable {store : Store} {request : Request} {endpoint : Endpoint} {outcome : Outcome}

/-- Readings are counted as nothing else. -/
theorem countP_readings {event : Event} (h : event ≠ .parsed "ok") (count : Nat) :
    (readings count).countP (fun other => other = event) = 0 := by
  rw [List.countP_eq_zero]
  intro other hmem
  obtain rfl := List.eq_of_mem_replicate hmem
  simpa using h.symm

namespace Course

/-- **A code is counted once where a request is refused with it,** and nowhere else. -/
theorem countP_stands {event : Event} {code : String} (hstands : event.Stands code)
    (h : Course store request endpoint outcome) :
    outcome.events.countP (fun other => other = event) =
      if outcome.response.code? = some code then 1 else 0 := by
  have hread : event ≠ .parsed "ok" := by cases hstands <;> decide
  cases h with
  | misread count hendpoint hfault =>
    rw [List.countP_append, countP_readings hread]
    cases hfault <;> cases hstands <;> rfl
  | failed hfault => cases hfault <;> cases hstands <;> rfl
  | evaluated holds => cases holds <;> cases hstands <;> rfl
  | invalid | unusable | combined =>
    rw [countP_readings hread]
    cases hstands <;> rfl
  | created =>
    rw [List.countP_append, countP_readings hread]
    cases hstands <;> rfl
  | _ => cases hstands <;> rfl

/-- **A result is counted once where it is answered,** and nowhere else. -/
theorem countP_ofHolds (holds : Bool) (h : Course store request endpoint outcome) :
    outcome.events.countP (fun other => other = .ofHolds holds) =
      if outcome.response.verdict? = some (.ok holds) then 1 else 0 := by
  have hread : Event.ofHolds holds ≠ .parsed "ok" := by cases holds <;> decide
  cases h with
  | evaluated found => cases found <;> cases holds <;> rfl
  | misread count hendpoint hfault =>
    rw [List.countP_append, countP_readings hread]
    cases hfault <;> cases holds <;> rfl
  | failed hfault => cases hfault <;> cases holds <;> rfl
  | invalid | unusable | combined =>
    rw [countP_readings hread]
    cases holds <;> rfl
  | created =>
    rw [List.countP_append, countP_readings hread]
    cases holds <;> rfl
  | _ => cases holds <;> rfl

/-- An endpoint does not count the requests. -/
theorem label?_eq_none (h : Course store request endpoint outcome) :
    ∀ event ∈ outcome.events, event.label? = none := by
  cases h <;>
    simp [readings, List.mem_replicate, Event.ofHolds, Event.label?, or_imp, forall_and]

/-- A code that is counted is told where something was posted. -/
theorem posted_of_stands {event : Event} {code : String} (hstands : event.Stands code)
    (h : Course store request endpoint outcome) (hcode : outcome.response.code? = some code) :
    endpoint ∈ [.create, .combine, .evaluate, .validate] := by
  cases h with
  | misread count hendpoint hfault => rcases hendpoint with rfl | rfl <;> decide
  | failed hfault => decide
  | _ => cases hstands <;> simp [response, Response.ofResult, Response.code?, Refusal.code,
      Fault.isCallersFault, Fault.code] at hcode

/-- Where a rule is made or removed the store is counted last, and nowhere else. -/
theorem stored_cases (hendpoint : request.endpoint? = some endpoint)
    (h : Course store request endpoint outcome) :
    (request.Writes ∧ outcome.response.status = 200 ∧
      ∃ front, outcome.events = front ++ [.stored outcome.store.size]) ∨
    ((request.Writes → outcome.response.status ≠ 200) ∧
      (∀ size, .stored size ∉ outcome.events) ∧ outcome.store = store) := by
  -- At the other endpoints nothing is made or removed.
  have hreads : endpoint ≠ .create → (∀ segment, endpoint ≠ .delete segment) →
      request.Writes → outcome.response.status ≠ 200 := by
    rintro hcreate hdelete (hwrites | hwrites)
    · exact absurd (Option.some.inj (hendpoint.symm.trans hwrites)) hcreate
    · exact absurd (Option.some.inj (hendpoint.symm.trans hwrites)) (hdelete _)
  have hrefused : ∀ refusal, outcome.result = .error refusal →
      request.Writes → outcome.response.status ≠ 200 := by
    intro refusal hresult _
    rw [response, hresult]
    exact refusal.status_ne
  cases h with
  | created => exact .inl ⟨.create hendpoint, rfl, _, rfl⟩
  | deleted => exact .inl ⟨.delete hendpoint, rfl, [], rfl⟩
  | invalid | misread | unusable | defective | unknown | failed =>
    exact .inr ⟨hrefused _ rfl, by simp [readings, List.mem_replicate], rfl⟩
  | combined | evaluated | validated | healthy | found =>
    exact .inr ⟨hreads (by simp) (by simp),
      by simp [readings, List.mem_replicate, Event.ofHolds], rfl⟩

end Course

end Outcome

/-! ## What an exchange is counted as -/

/-- An exchange in which a rule is evaluated, with this result. -/
def Exchange.Finds (exchange : Exchange) (holds : Bool) : Prop :=
  exchange.request.endpoint? = some .evaluate ∧ exchange.reply.status = 200 ∧
    exchange.reply.holds? = some holds

instance (exchange : Exchange) (holds : Bool) : Decidable (exchange.Finds holds) :=
  inferInstanceAs (Decidable (exchange.request.endpoint? = some .evaluate ∧
    exchange.reply.status = 200 ∧ exchange.reply.holds? = some holds))

namespace Service

variable {service next : Service} {exchange : Exchange}

/-- A figure that counts labels is raised by the label of an exchange. -/
theorem Course.figure_of_label (h : service.Course exchange next) (figure : Metrics → Nat)
    {q : RequestLabel → Bool} (hfigure : ∀ metrics event, figure (metrics.record event) =
      figure metrics + if event.label?.any q then 1 else 0) :
    figure next.metrics = figure service.metrics + if q exchange.label then 1 else 0 := by
  have hlast : [Event.answered exchange.label].countP (fun event => event.label?.any q) =
      if q exchange.label then 1 else 0 := by
    simp [Event.label?]
  cases h with
  | nowhere hresponse hstore hmetrics =>
    rw [hmetrics, Metrics.recordAll_eq_add_countP hfigure]
    simpa using hlast
  | @endpoint _ outcome hendpoint hcourse hresponse hstore hmetrics =>
    have hnone : outcome.events.countP (fun event => event.label?.any q) = 0 := by
      rw [List.countP_eq_zero]
      intro event hmem
      simp [hcourse.label?_eq_none event hmem]
    rw [hmetrics, Metrics.recordAll_eq_add_countP hfigure, List.countP_append]
    simpa [hnone] using hlast

/-- A figure that counts what endpoints count is raised where the response says so. -/
theorem Course.figure_of_response (h : service.Course exchange next) (figure : Metrics → Nat)
    {p : Event → Prop} [DecidablePred p] {q : Response → Prop} [DecidablePred q]
    (hfigure : ∀ metrics event, figure (metrics.record event) =
      figure metrics + if p event then 1 else 0)
    (hlabel : ∀ label, ¬p (.answered label)) (hbare : ∀ response, response.IsBare → ¬q response)
    (hcourse : ∀ {endpoint : Endpoint} {outcome : Outcome},
      Outcome.Course service.store exchange.request endpoint outcome →
        outcome.events.countP p = if q outcome.response then 1 else 0) :
    figure next.metrics = figure service.metrics + if q exchange.reply.response then 1 else 0 := by
  have hlast : ∀ label, [Event.answered label].countP p = 0 := by
    intro label
    simp [hlabel]
  cases h with
  | nowhere hresponse hstore hmetrics =>
    rw [hmetrics, Metrics.recordAll_eq_add_countP hfigure, hlast, if_neg (hbare _ hresponse)]
  | endpoint hendpoint hcourse' hresponse hstore hmetrics =>
    rw [hmetrics, Metrics.recordAll_eq_add_countP hfigure, List.countP_append, hlast,
      hcourse hcourse', hresponse, Nat.add_zero]

/-- The number of stored rules is counted where a rule is made or removed, and nowhere else. -/
theorem Course.rulesStored_cases (h : service.Course exchange next) :
    ((exchange.request.Writes ∧ exchange.reply.status = 200) ∧
      next.metrics.rulesStored = some next.store.size) ∨
    (¬(exchange.request.Writes ∧ exchange.reply.status = 200) ∧
      next.metrics.rulesStored = service.metrics.rulesStored ∧ next.store = service.store) := by
  cases h with
  | nowhere hresponse hstore hmetrics =>
    refine .inr ⟨fun hwrites => hresponse.status_ne hwrites.2, ?_, hstore⟩
    rw [hmetrics]
    rfl
  | endpoint hendpoint hcourse hresponse hstore hmetrics =>
    rcases hcourse.stored_cases hendpoint with
      ⟨hwrites, hstatus, front, hevents⟩ | ⟨hstatus, hevents, hsame⟩
    · refine .inl ⟨⟨hwrites, (congrArg Response.status hresponse).trans hstatus⟩, ?_⟩
      rw [hmetrics, hevents, hstore]
      simp [Metrics.recordAll, Metrics.record, List.foldl_append]
    · refine .inr ⟨fun hwrites => hstatus hwrites.1 ?_, ?_, hstore.trans hsame⟩
      · exact (congrArg Response.status hresponse).symm.trans hwrites.2
      · rw [hmetrics, Metrics.rulesStored_recordAll]
        intro size hmem
        rcases List.mem_append.1 hmem with hmem | hmem
        · exact hevents size hmem
        · cases List.mem_singleton.1 hmem

variable (service) (occasion : Occasion) (request : Request)

/-- A code that is counted is told in the body. -/
theorem code?_eq_some_iff {event : Event} {code : String} (hstands : event.Stands code) :
    (service.exchange occasion request).reply.code? = some code ↔
      (service.exchange occasion request).reply.response.code? = some code := by
  refine ⟨code?_of_reply, fun hcode => ?_⟩
  cases service.course occasion request with
  | nowhere hresponse =>
    rw [hresponse.code?_eq] at hcode
    cases hcode
  | @endpoint endpoint outcome hendpoint hcourse hresponse =>
    have hposted := hcourse.posted_of_stands hstands (hresponse ▸ hcode)
    have hpayload := service.payload_of_posted occasion hendpoint hposted
    exact (Reply.code?_of_payload hpayload).trans hcode

/-- A result is told in the body. -/
theorem finds_iff (holds : Bool) : (service.exchange occasion request).Finds holds ↔
    (service.exchange occasion request).reply.response.verdict? = some (.ok holds) := by
  -- Where a rule was evaluated, the body tells the result.
  have htold : ∀ found report elapsed, request.endpoint? = some .evaluate →
      (service.exchange occasion request).reply.response =
        .answered (.evaluated found report elapsed) →
      (service.exchange occasion request).reply.holds? = some found := by
    intro found report elapsed hendpoint hresponse
    have hpayload := service.payload_of_posted occasion hendpoint (by decide)
    unfold Reply.holds? Reply.data?
    rw [hpayload, hresponse]
    rfl
  constructor
  · rintro ⟨hendpoint, hstatus, hholds⟩
    obtain ⟨answer, hanswer⟩ := Response.exists_answered hstatus
    cases service.course occasion request with
    | nowhere hresponse =>
      rw [hanswer] at hresponse
      cases hresponse
    | @endpoint endpoint outcome hendpoint' hcourse hresponse =>
      obtain rfl := Option.some.inj (hendpoint'.symm.trans hendpoint)
      rw [hresponse] at hanswer
      cases hcourse with
      | evaluated found report elapsed =>
        have hfound := htold found report elapsed hendpoint hresponse
        obtain rfl := Option.some.inj (hfound.symm.trans hholds)
        rw [hresponse]
        rfl
      | _ => cases hanswer
  · intro hverdict
    cases service.course occasion request with
    | nowhere hresponse =>
      rw [hresponse.verdict?_eq] at hverdict
      cases hverdict
    | @endpoint endpoint outcome hendpoint hcourse hresponse =>
      rw [hresponse] at hverdict
      cases hcourse with
      | evaluated found report elapsed =>
        obtain rfl : found = holds := Except.ok.inj (Option.some.inj hverdict)
        exact ⟨hendpoint, Reply.status_of_answered hresponse,
          htold found report elapsed hendpoint hresponse⟩
      | _ => cases hverdict

/-- A figure that some exchanges raise by one, and no others, counts them in a run. -/
theorem figure_after (figure : Metrics → Nat) {q : Exchange → Prop} [DecidablePred q]
    (hempty : figure .empty = 0)
    (hstep : ∀ (service : Service) (occasion : Occasion) (request : Request),
      figure (service.answer occasion request).2.metrics =
        figure service.metrics + if q (service.exchange occasion request) then 1 else 0)
    (limits : EngineSettings) (requests : List (Occasion × Request)) :
    figure ((fresh limits).after requests).metrics = ((fresh limits).log requests).countP q := by
  induction requests using List.reverseRecOn with
  | nil => exact hempty
  | append_singleton requests asked ih =>
    rw [log_snoc, after_snoc, hstep, ih, List.countP_append, List.countP_singleton]
    simp only [decide_eq_true_eq]

/-! ## Whole runs -/

/-- There is one exchange for every request. -/
theorem length_log (requests : List (Occasion × Request)) :
    (service.log requests).length = requests.length := by
  induction requests generalizing service with
  | nil => rfl
  | cons asked rest ih => exact congrArg (· + 1) (ih (service.answer asked.1 asked.2).2)

/-- The counts of a service agree with what it was asked and with the log of what it said. -/
structure Reconciled (service : Service) (requests : List (Occasion × Request))
    (log : List Exchange) : Prop where
  /-- All requests are counted. -/
  total : service.metrics.requests.total = requests.length
  /-- Requests are counted under their labels. -/
  labels : ∀ label, service.metrics.requests.count label =
    log.countP fun exchange => exchange.label = label
  /-- Texts that are no rules are counted where their code is told. -/
  parses : ∀ code ∈ ["LEX_ERROR", "SYNTAX_ERROR"], service.metrics.parses.count code =
    log.countP fun exchange => exchange.reply.code? = some code
  /-- Rules that hold are counted where that is told. -/
  matched : service.metrics.evaluations.count "matched" =
    log.countP fun exchange => exchange.Finds true
  /-- Rules that do not hold are counted where that is told. -/
  unmatched : service.metrics.evaluations.count "not_matched" =
    log.countP fun exchange => exchange.Finds false
  /-- Rules that cannot be evaluated are counted where their code is told. -/
  failures : ∀ code ∈ ["MISSING_ATTRIBUTE", "TYPE_MISMATCH"],
    service.metrics.evaluations.count code =
      log.countP fun exchange => exchange.reply.code? = some code
  /-- Once a rule was made or removed, the number of stored rules is known. -/
  stored : (∃ exchange ∈ log, exchange.request.Writes ∧ exchange.reply.status = 200) →
    service.metrics.rulesStored = some service.store.size
  /-- Before that it is not. -/
  unstored : (¬∃ exchange ∈ log, exchange.request.Writes ∧ exchange.reply.status = 200) →
    service.metrics.rulesStored = none

variable (limits : EngineSettings) (requests : List (Occasion × Request))

/-- Requests are counted under their labels. -/
theorem count_label (label : RequestLabel) :
    ((fresh limits).after requests).metrics.requests.count label =
      ((fresh limits).log requests).countP fun exchange => exchange.label = label := by
  refine figure_after (fun metrics => metrics.requests.count label) rfl
    (fun service occasion request => ?_) limits requests
  simpa using (service.course occasion request).figure_of_label
    (fun metrics => metrics.requests.count label) (Metrics.count_requests_record label)

/-- All requests are counted. -/
theorem total_requests :
    ((fresh limits).after requests).metrics.requests.total = requests.length := by
  have htotal := figure_after (fun metrics => metrics.requests.total) (q := fun _ => True) rfl
    (fun service occasion request => by
      simpa using (service.course occasion request).figure_of_label
        (fun metrics => metrics.requests.total) Metrics.total_requests_record) limits requests
  simpa [length_log] using htotal

/-- A figure that counts the events for a code counts the replies with it. -/
theorem figure_of_stands (figure : Metrics → Nat) {event : Event} {code : String}
    (hstands : event.Stands code) (hempty : figure .empty = 0)
    (hfigure : ∀ metrics other, figure (metrics.record other) =
      figure metrics + if other = event then 1 else 0) :
    figure ((fresh limits).after requests).metrics = ((fresh limits).log requests).countP
      fun exchange => exchange.reply.code? = some code := by
  refine figure_after figure hempty (fun service occasion request => ?_) limits requests
  have hstep := (service.course occasion request).figure_of_response figure
    (q := fun response => response.code? = some code) hfigure
    (fun label => by cases hstands <;> simp)
    (fun response hbare => by simp [hbare.code?_eq])
    (fun hcourse => hcourse.countP_stands hstands)
  simpa only [code?_eq_some_iff service occasion request hstands] using hstep

/-- Evaluations are counted where their results are told. -/
theorem count_holds (holds : Bool) :
    ((fresh limits).after requests).metrics.evaluations.count
        (if holds then "matched" else "not_matched") =
      ((fresh limits).log requests).countP fun exchange => exchange.Finds holds := by
  refine figure_after (fun metrics => metrics.evaluations.count
    (if holds then "matched" else "not_matched")) rfl (fun service occasion request => ?_)
    limits requests
  have hstep := (service.course occasion request).figure_of_response
    (fun metrics => metrics.evaluations.count (if holds then "matched" else "not_matched"))
    (p := fun event => event = .ofHolds holds)
    (q := fun response => response.verdict? = some (.ok holds))
    (Metrics.count_evaluations_record _) (fun label => by simp [Event.ofHolds])
    (fun response hbare => by simp [hbare.verdict?_eq])
    (fun hcourse => hcourse.countP_ofHolds holds)
  simpa only [finds_iff] using hstep

/-- Once a rule was made or removed with success, the number of stored rules is known. -/
theorem rulesStored_after :
    ((∃ exchange ∈ (fresh limits).log requests,
      exchange.request.Writes ∧ exchange.reply.status = 200) →
        ((fresh limits).after requests).metrics.rulesStored =
          some ((fresh limits).after requests).store.size) ∧
    ((¬∃ exchange ∈ (fresh limits).log requests,
      exchange.request.Writes ∧ exchange.reply.status = 200) →
        ((fresh limits).after requests).metrics.rulesStored = none) := by
  induction requests using List.reverseRecOn with
  | nil =>
    refine ⟨?_, fun _ => rfl⟩
    rintro ⟨exchange, hmem, -⟩
    cases hmem
  | append_singleton requests asked ih =>
    rw [log_snoc, after_snoc]
    simp only [List.mem_append, List.mem_singleton, or_and_right, exists_or, exists_eq_left]
    rcases (((fresh limits).after requests).course asked.1 asked.2).rulesStored_cases with
      ⟨hwrites, hstored⟩ | ⟨hnone, hmetrics, hstore⟩
    · exact ⟨fun _ => hstored, fun hnot => absurd (.inr hwrites) hnot⟩
    · rw [hmetrics, hstore, or_iff_left hnone]
      exact ih

/-- **What a service counts agrees with what it says,** whatever it is asked.

**Proof sketch.** A run raises a figure once for each exchange that raises it by one. Every request
is counted under its label, last of all. A code of a text that is no rule is counted where reading
stops, and a request is refused with it there; results and codes of evaluations are counted where a
rule is evaluated, and nothing is said but that. The number of rules is counted by what changes the
store. -/
theorem counts_what_it_says :
    Reconciled ((fresh limits).after requests) requests ((fresh limits).log requests) where
  total := total_requests limits requests
  labels := count_label limits requests
  parses := by
    intro code hcode
    have hstands : (Event.parsed code).Stands code := by
      rcases List.mem_cons.1 hcode with rfl | hcode
      · exact .unrecognized
      · obtain rfl := List.mem_singleton.1 hcode
        exact .unexpected
    exact figure_of_stands limits requests (fun metrics => metrics.parses.count code) hstands rfl
      (Metrics.count_parses_record code)
  matched := count_holds limits requests true
  unmatched := count_holds limits requests false
  failures := by
    intro code hcode
    have hstands : (Event.evaluated code).Stands code := by
      rcases List.mem_cons.1 hcode with rfl | hcode
      · exact .missingAttribute
      · obtain rfl := List.mem_singleton.1 hcode
        exact .typeMismatch
    exact figure_of_stands limits requests (fun metrics => metrics.evaluations.count code) hstands
      rfl (Metrics.count_evaluations_record code)
  stored := (rulesStored_after limits requests).1
  unstored := (rulesStored_after limits requests).2

end Service

end Criteria

import Criteria.Proofs.Rule.Combination
import Criteria.Proofs.Service.Endpoint
import Criteria.Proofs.Store.Invariant

/-!
# What a service keeps and hands out

Whatever a fresh service is asked, its store stays sound, and every rule that it hands out is valid.

## Main definitions

* `Criteria.Answer.rule?` — the rule that an answer hands out.
* `Criteria.Outcome.Sound` — an outcome that keeps the store sound and hands out valid rules only.

## Main results

* `Criteria.Outcome.sound_ofEndpoint` — every endpoint comes to such an outcome.
* `Criteria.Service.issues_of_answer` — so does every request.
* `Criteria.Service.issues_of_answerAll` — every rule that a fresh service hands out is valid.
-/

set_option autoImplicit false
set_option relaxedAutoImplicit false

namespace Criteria

/-- The rule that an answer hands out. -/
def Answer.rule? : Answer → Option Rule
  | .created definition => some definition.rule
  | .combined rule => some rule
  | .found definition => some definition.rule
  | _ => none

namespace Outcome

/-- The store of an outcome is sound, and a rule that is handed out is valid. -/
structure Sound (outcome : Outcome) : Prop where
  /-- The store is sound. -/
  store : outcome.store.Sound
  /-- What is handed out is valid. -/
  valid : ∀ {answer : Answer} {rule : Rule}, outcome.result = .ok answer →
    answer.rule? = some rule → rule.issues = []

/-- Nothing is handed out where a request is refused. -/
theorem sound_error {refusal : Refusal} {store : Store} {events : List Event} (h : store.Sound) :
    Sound ⟨.error refusal, store, events⟩ :=
  ⟨h, fun hresult => nomatch hresult⟩

/-- Nothing is handed out by an answer without a rule. -/
theorem sound_ok {answer : Answer} {store : Store} {events : List Event} (h : store.Sound)
    (hrule : ∀ rule, answer.rule? = some rule → rule.issues = []) :
    Sound ⟨.ok answer, store, events⟩ := by
  refine ⟨h, ?_⟩
  intro answer' rule hresult
  cases hresult
  exact hrule rule

variable {limits : EngineSettings} {store : Store}

/-- A rule that is read is valid. -/
theorem issues_of_readRule {text : String} {rule : Rule} {events : List Event}
    (h : readRule limits text = (.ok rule, events)) : rule.issues = [] := by
  unfold readRule at h
  split at h
  · exact nomatch h
  · split at h
    · next hread =>
      cases h
      exact Rule.issues_of_ofText hread
    · exact nomatch h

/-- Rules that are read are valid. -/
theorem issues_of_readRules {texts : List String} {rules : List Rule} {events : List Event}
    (h : readRules limits texts = (.ok rules, events)) : ∀ rule ∈ rules, rule.issues = [] := by
  induction texts generalizing rules events with
  | nil => cases h; exact fun _ hmem => nomatch hmem
  | cons text texts ih =>
    unfold readRules at h
    split at h
    · exact nomatch h
    · next rule events hrule =>
      obtain ⟨rest, more, hrest⟩ : ∃ rest more, readRules limits texts = (rest, more) :=
        ⟨_, _, rfl⟩
      rw [hrest] at h
      cases rest with
      | error refusal => exact nomatch h
      | ok rest =>
        cases h
        exact List.forall_mem_cons.mpr ⟨issues_of_readRule hrule, ih hrest⟩

/-- The combination of texts is valid. -/
theorem issues_of_combination {body : CombineBody} {rule : Rule} {events : List Event}
    (h : combination limits body = (.ok rule, events)) : rule.issues = [] := by
  unfold combination at h
  split at h
  · exact nomatch h
  · split at h
    · exact nomatch h
    · next op _ =>
      split at h
      · exact nomatch h
      · next rules _ hrules =>
        obtain ⟨hcombined, -⟩ := Prod.mk.inj h
        cases hcombine : Rule.combine op rules with
        | error fault =>
          rw [hcombine] at hcombined
          exact nomatch hcombined
        | ok combined =>
          rw [hcombine] at hcombined
          cases hcombined
          exact Rule.issues_of_combine hcombine (issues_of_readRules hrules)

/-! ## Endpoints -/

variable {occasion : Occasion} {request : Request}

theorem sound_create (hs : store.Sound) : (create limits store occasion request).Sound := by
  unfold create
  split
  · exact sound_error hs
  · split
    · exact sound_error hs
    · next rule _ hrule =>
      dsimp only
      split
      · exact sound_error hs
      · next hsave =>
        refine sound_ok (hs.save hsave) ?_
        rintro _ ⟨⟩
        exact issues_of_readRule hrule

theorem sound_combine (hs : store.Sound) : (combine limits store request).Sound := by
  unfold combine
  split
  · exact sound_error hs
  · next body _ =>
    obtain ⟨combined, events, hcombination⟩ :
      ∃ combined events, combination limits body = (combined, events) := ⟨_, _, rfl⟩
    rw [hcombination]
    cases combined with
    | error refusal => exact sound_error hs
    | ok rule =>
      refine sound_ok hs ?_
      rintro _ ⟨⟩
      exact issues_of_combination hcombination

theorem sound_evaluate (hs : store.Sound) : (evaluate limits store occasion request).Sound := by
  unfold evaluate
  split
  · exact sound_error hs
  · split
    · exact sound_error hs
    · dsimp only
      split
      · exact sound_error hs
      · exact sound_ok hs fun _ hrule => nomatch hrule

theorem sound_validate (hs : store.Sound) : (validate store request).Sound := by
  unfold validate
  split
  · exact sound_error hs
  · exact sound_ok hs fun _ hrule => nomatch hrule

theorem sound_fetch (hs : store.Sound) (id : String) : (fetch store id).Sound := by
  unfold fetch Store.load
  cases hfound : store.rules.get? id with
  | none => exact sound_error hs
  | some compiled =>
    refine sound_ok hs ?_
    rintro _ ⟨⟩
    exact hs.valid hfound

theorem sound_delete (hs : store.Sound) (id : String) : (delete store id).Sound := by
  unfold delete
  split
  · exact sound_error hs
  · next hdelete => exact sound_ok (hs.delete hdelete) fun _ hrule => nomatch hrule

/-- **Every endpoint** keeps the store sound and hands out valid rules only. -/
theorem sound_ofEndpoint (hs : store.Sound) {endpoint : Endpoint} {outcome : Outcome}
    (h : ofEndpoint limits store occasion request endpoint = some outcome) : outcome.Sound := by
  cases endpoint with
  | create => cases h; exact sound_create hs
  | combine => cases h; exact sound_combine hs
  | evaluate => cases h; exact sound_evaluate hs
  | validate => cases h; exact sound_validate hs
  | health => cases h; exact sound_ok hs fun _ hrule => nomatch hrule
  | fetch segment =>
    obtain ⟨id, -, rfl⟩ := Option.map_eq_some_iff.mp h
    exact sound_fetch hs id
  | delete segment =>
    obtain ⟨id, -, rfl⟩ := Option.map_eq_some_iff.mp h
    exact sound_delete hs id

end Outcome

namespace Service

variable {service : Service} {occasion : Occasion} {request : Request}

/-- The response to a request is that of an outcome of an endpoint, over the store after it, or it
hands out nothing and leaves the store as it was. -/
theorem respond_cases (service : Service) (occasion : Occasion) (request : Request) :
    (∃ endpoint outcome, Outcome.ofEndpoint service.limits service.store occasion request endpoint =
        some outcome ∧ (service.respond occasion request).1 = .ofResult outcome.result ∧
        (service.respond occasion request).2.1 = outcome.store) ∨
    ((∀ answer, (service.respond occasion request).1 ≠ .answered answer) ∧
      (service.respond occasion request).2.1 = service.store) := by
  unfold respond
  split
  · exact .inr ⟨fun _ h => (nomatch h), rfl⟩
  · split
    · exact .inr ⟨fun _ h => (nomatch h), rfl⟩
    · next endpoint _ =>
      split
      · exact .inr ⟨fun _ h => (nomatch h), rfl⟩
      · next outcome houtcome => exact .inl ⟨endpoint, outcome, houtcome, rfl, rfl⟩

/-- A request keeps the store sound. -/
theorem sound_answer (hs : service.store.Sound) :
    (service.answer occasion request).2.store.Sound := by
  rw [store_answer]
  rcases service.respond_cases occasion request with ⟨_, outcome, houtcome, -, hstore⟩ | ⟨-, hstore⟩
  · rw [hstore]
    exact (Outcome.sound_ofEndpoint hs houtcome).store
  · rw [hstore]
    exact hs

/-- A rule that is handed out is valid. -/
theorem issues_of_answer (hs : service.store.Sound) {answer : Answer} {rule : Rule}
    (h : (service.answer occasion request).1.response = .answered answer)
    (hrule : answer.rule? = some rule) : rule.issues = [] := by
  rw [response_answer] at h
  rcases service.respond_cases occasion request with ⟨_, outcome, houtcome, hresponse, -⟩ | ⟨hno, -⟩
  · rw [hresponse] at h
    cases hresult : outcome.result with
    | error refusal =>
      rw [hresult] at h
      exact nomatch h
    | ok answer' =>
      rw [hresult] at h
      cases h
      exact (Outcome.sound_ofEndpoint hs houtcome).valid hresult hrule
  · exact absurd h (hno answer)

/-- **Every rule that a service hands out is valid,** whatever it was asked before, if its store
was sound to begin with. -/
theorem issues_of_answerAll {requests : List (Occasion × Request)} (hs : service.store.Sound)
    {reply : Reply} (hreply : reply ∈ (service.answerAll requests).1) {answer : Answer}
    {rule : Rule} (h : reply.response = .answered answer) (hrule : answer.rule? = some rule) :
    rule.issues = [] := by
  induction requests generalizing service with
  | nil => exact nomatch hreply
  | cons first rest ih =>
    obtain ⟨occasion, request⟩ := first
    rcases List.mem_cons.mp hreply with rfl | hlater
    · exact issues_of_answer hs h hrule
    · exact ih (sound_answer hs) hlater

end Service

end Criteria

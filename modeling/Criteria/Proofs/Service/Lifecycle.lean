import Criteria.Proofs.Service.Effect
import Criteria.Proofs.Service.Evaluation
import Criteria.Proofs.Service.Posting
import Mathlib.Data.List.Induction

/-!
# The life of a rule

Over a whole run of requests, a service keeps the rules that it was asked to make and has not been
asked to remove. A rule is shown as it was handed out as long as it is kept, and is unknown from its
removal on.

## Main definitions

* `Criteria.Service.log` — the exchanges of a run, and `Criteria.Service.after`, the service
  behind it.
* `Criteria.Service.drawn` — the ids that are drawn in a run.
* `Criteria.Service.Accounts` — what the log of a run says about the store.
* `Criteria.Request.Names` — the requests that are about one kept rule.

## Main results

* `Criteria.Service.Accounts.snoc` — one more exchange keeps the accounts.
* `Criteria.Service.accounts` — the log of every run accounts for the store behind it.
* `Criteria.Service.keeps_what_it_created` — what a service says about a rule, over its whole life.
-/

set_option autoImplicit false
set_option relaxedAutoImplicit false

namespace Criteria

namespace Service

/-! ## Runs -/

/-- The service behind some requests. -/
def after (service : Service) (requests : List (Occasion × Request)) : Service :=
  (service.answerAll requests).2

/-- Some requests with the replies to them. -/
def log (service : Service) (requests : List (Occasion × Request)) : List Exchange :=
  List.zipWith (fun asked reply => ⟨asked.2, reply⟩) requests (service.answerAll requests).1

/-- The ids that are drawn for the rules that some requests ask to be made. -/
def drawn (requests : List (Occasion × Request)) : List String :=
  requests.filterMap fun asked =>
    if asked.2.endpoint? = some .create then some asked.1.ruleId else none

/-- The definitions of the rules that are made in a run. -/
def created (log : List Exchange) : List Definition := log.filterMap Exchange.created?

/-- The ids of the rules that are removed in a run. -/
def removed (log : List Exchange) : List String := log.filterMap Exchange.removed?

variable (service : Service) (requests : List (Occasion × Request)) (occasion : Occasion)
  (request : Request)

/-- The service behind one more request. -/
theorem after_snoc : service.after (requests ++ [(occasion, request)]) =
    ((service.after requests).answer occasion request).2 := by
  induction requests generalizing service with
  | nil => rfl
  | cons asked rest ih => exact ih (service.answer asked.1 asked.2).2

/-- The log of one more request ends with its exchange. -/
theorem log_snoc : service.log (requests ++ [(occasion, request)]) =
    service.log requests ++ [(service.after requests).exchange occasion request] := by
  induction requests generalizing service with
  | nil => rfl
  | cons asked rest ih =>
    exact congrArg (service.exchange asked.1 asked.2 :: ·) (ih (service.answer asked.1 asked.2).2)

/-- Earlier ids are drawn in front of later ones. -/
theorem drawn_append (more : List (Occasion × Request)) :
    drawn (requests ++ more) = drawn requests ++ drawn more := List.filterMap_append

/-- Every exchange in a log is that over a request at some point of the run. -/
theorem exists_of_mem_log {exchange : Exchange} (h : exchange ∈ service.log requests) :
    ∃ (before : Service) (occasion : Occasion),
      exchange = before.exchange occasion exchange.request := by
  induction requests generalizing service with
  | nil => cases h
  | cons asked rest ih =>
    rcases List.mem_cons.1 h with rfl | hrest
    · exact ⟨service, asked.1, rfl⟩
    · exact ih (service.answer asked.1 asked.2).2 hrest

/-! ## Accounts -/

/-- What the log of a run says about the store behind it. -/
structure Accounts (requests : List (Occasion × Request)) (log : List Exchange) (store : Store) :
    Prop where
  /-- The store is sound. -/
  sound : store.Sound
  /-- The rules are those that have been made and not removed. -/
  definitions : store.definitions = (created log).filter fun definition =>
    definition.id ∉ removed log
  /-- Rules are made under the ids that are drawn. -/
  ids : ((created log).map Definition.id).Sublist (drawn requests)
  /-- Only rules that have been made are removed. -/
  removes : removed log ⊆ (created log).map Definition.id

namespace Accounts

variable {requests occasion} {log : List Exchange} {store next : Store} {exchange : Exchange}
  {definition : Definition} {id : String}

/-- A rule that is stored has been made. -/
theorem mem_created (h : Accounts requests log store) (hmem : definition ∈ store.definitions) :
    definition ∈ created log := by
  rw [h.definitions] at hmem
  exact List.mem_of_mem_filter hmem

/-- A rule that is made under a new id comes last in the store and in the log. -/
theorem create (h : Accounts requests log store) (hcreated : exchange.created? = some definition)
    (hremoved : exchange.removed? = none) (hendpoint : exchange.request.endpoint? = some .create)
    (hid : definition.id = occasion.ruleId)
    (hsave : store.save definition = .ok (definition.id, next))
    (hdrawn : (drawn (requests ++ [(occasion, exchange.request)])).Nodup) :
    Accounts (requests ++ [(occasion, exchange.request)]) (log ++ [exchange]) next := by
  have hcreated' : created (log ++ [exchange]) = created log ++ [definition] := by
    simp [created, hcreated]
  have hremoved' : removed (log ++ [exchange]) = removed log := by simp [removed, hremoved]
  have hdrawn' : drawn (requests ++ [(occasion, exchange.request)]) =
      drawn requests ++ [definition.id] := by
    simp [drawn, hendpoint, hid]
  rw [hdrawn'] at hdrawn
  -- Nothing has been made under the id, and so nothing has been removed or is stored under it.
  have hnew : definition.id ∉ drawn requests := by
    intro hmem
    exact (List.nodup_append.1 hdrawn).2.2 _ hmem _ (List.mem_singleton_self _) rfl
  have hunused : definition.id ∉ (created log).map Definition.id :=
    fun hmem => hnew (h.ids.subset hmem)
  have hkept : definition.id ∉ removed log := fun hmem => hunused (h.removes hmem)
  have hfresh : store.rules.get? definition.id = none := by
    refine Store.get?_eq_none h.sound fun other hother heq => hunused ?_
    exact List.mem_map.2 ⟨other, h.mem_created hother, heq⟩
  refine ⟨h.sound.save hsave, ?_, ?_, ?_⟩
  · rw [Store.definitions_save hsave hfresh, hcreated', hremoved', List.filter_append,
      ← h.definitions]
    simp [hkept]
  · rw [hcreated', hdrawn', List.map_append]
    exact h.ids.append (.refl _)
  · rw [hcreated', hremoved', List.map_append]
    exact List.subset_append_of_subset_left _ h.removes

/-- A rule that is removed was stored, and so it has been made. -/
theorem delete (h : Accounts requests log store) (hcreated : exchange.created? = none)
    (hremoved : exchange.removed? = some id) (hdelete : store.delete id = .ok next) :
    Accounts (requests ++ [(occasion, exchange.request)]) (log ++ [exchange]) next := by
  have hcreated' : created (log ++ [exchange]) = created log := by simp [created, hcreated]
  have hremoved' : removed (log ++ [exchange]) = removed log ++ [id] := by
    simp [removed, hremoved]
  obtain ⟨⟨definition, hdefinition, hid⟩, hrest⟩ := h.sound.definitions_delete hdelete
  refine ⟨h.sound.delete hdelete, ?_, ?_, ?_⟩
  · rw [hrest, hcreated', hremoved', h.definitions, List.filter_filter]
    refine List.filter_congr fun other _ => ?_
    simp [and_comm]
  · rw [hcreated', drawn_append]
    exact h.ids.trans (List.sublist_append_left _ _)
  · rw [hcreated', hremoved']
    refine List.append_subset.2 ⟨h.removes, List.cons_subset.2 ⟨?_, List.nil_subset _⟩⟩
    exact List.mem_map.2 ⟨definition, h.mem_created hdefinition, hid⟩

/-- An exchange that makes and removes nothing changes nothing. -/
theorem keep (h : Accounts requests log store) (hcreated : exchange.created? = none)
    (hremoved : exchange.removed? = none) :
    Accounts (requests ++ [(occasion, exchange.request)]) (log ++ [exchange]) store := by
  have hcreated' : created (log ++ [exchange]) = created log := by simp [created, hcreated]
  have hremoved' : removed (log ++ [exchange]) = removed log := by simp [removed, hremoved]
  refine ⟨h.sound, ?_, ?_, ?_⟩
  · rw [hcreated', hremoved', h.definitions]
  · rw [hcreated', drawn_append]
    exact h.ids.trans (List.sublist_append_left _ _)
  · rw [hcreated', hremoved']
    exact h.removes

/-- **One more exchange keeps the accounts,** unless an id is drawn twice. -/
theorem snoc (h : Accounts requests log store) (heffect : exchange.Effect store next occasion)
    (hdrawn : (drawn (requests ++ [(occasion, exchange.request)])).Nodup) :
    Accounts (requests ++ [(occasion, exchange.request)]) (log ++ [exchange]) next := by
  rcases heffect.cases_created?_removed? with
    ⟨definition, hcreated, hremoved, hendpoint, hid, hsave⟩ | ⟨id, hcreated, hremoved, hdelete⟩ |
      ⟨hcreated, hremoved, rfl⟩
  · exact h.create hcreated hremoved hendpoint hid hsave hdrawn
  · exact h.delete hcreated hremoved hdelete
  · exact h.keep hcreated hremoved

end Accounts

variable {requests}

/-- **The log of a run accounts for the store behind it,** unless an id is drawn twice. -/
theorem accounts (limits : EngineSettings) (hdrawn : (drawn requests).Nodup) :
    Accounts requests ((fresh limits).log requests) ((fresh limits).after requests).store := by
  induction requests using List.reverseRecOn with
  | nil => exact ⟨Store.sound_fresh, rfl, .refl _, List.Subset.refl _⟩
  | append_singleton requests asked ih =>
    obtain ⟨occasion, request⟩ := asked
    have hprefix : (drawn requests).Nodup := by
      refine List.Nodup.sublist ?_ hdrawn
      simp [drawn]
    rw [log_snoc, after_snoc]
    exact (ih hprefix).snoc (effect _ occasion request) hdrawn

end Service

/-! ## Requests about one rule -/

namespace Request

variable {request : Request} {id : String}

/-- Rules are made where something is posted. -/
theorem method_of_create (h : request.endpoint? = some .create) : request.method = "POST" := by
  obtain ⟨route, -, hendpoint⟩ := Option.bind_eq_some_iff.1 h
  unfold Route.endpoint? at hendpoint
  cases route <;> grind

/-- A request for an evaluation that brings an id brings no tree. -/
theorem ast_of_readEvaluate {body : EvaluateBody} (h : request.readEvaluate = .ok body)
    (hid : body.ruleId = some id) : body.ast = none := by
  unfold readEvaluate readChecked at h
  split at h
  case h_1 => cases h
  case h_2 read _ =>
    split at h
    case h_2 => cases h
    case h_1 hcomplaints =>
      obtain rfl := Except.ok.inj h
      unfold EvaluateBody.complaints at hcomplaints
      rw [hid, Option.isSome_some] at hcomplaints
      split_ifs at hcomplaints with hast
      exact Option.not_isSome_iff_eq_none.1 hast

/-- A request names a rule if it asks for the rule under an id to be shown, removed or evaluated. -/
inductive Names (request : Request) (id : String) : Prop where
  /-- The rule is shown. -/
  | fetch {segment : List Char} (hendpoint : request.endpoint? = some (.fetch segment))
      (hid : Percent.decode? segment = some id)
  /-- The rule is removed. -/
  | delete {segment : List Char} (hendpoint : request.endpoint? = some (.delete segment))
      (hid : Percent.decode? segment = some id)
  /-- The rule is evaluated. -/
  | evaluate {body : EvaluateBody} (hendpoint : request.endpoint? = some .evaluate)
      (hbody : request.readEvaluate = .ok body) (hid : body.ruleId = some id)

end Request

namespace Service

variable {service : Service} {request : Request} {segment : List Char} {id : String}
  (occasion : Occasion)

/-- What a service says where a rule is shown. -/
theorem response_fetch (hendpoint : request.endpoint? = some (.fetch segment))
    (hid : Percent.decode? segment = some id) :
    (service.exchange occasion request).reply.response =
      .ofResult (Outcome.fetch service.store id).result := by
  have houtcome : Outcome.ofEndpoint service.limits service.store occasion request
      (.fetch segment) = some (Outcome.fetch service.store id) := by
    rw [Outcome.ofEndpoint, hid, Option.map_some]
  exact congrArg Prod.fst (service.respond_of_endpoint? occasion hendpoint houtcome)

/-- What a service says where a rule is removed. -/
theorem response_delete (hendpoint : request.endpoint? = some (.delete segment))
    (hid : Percent.decode? segment = some id) :
    (service.exchange occasion request).reply.response =
      .ofResult (Outcome.delete service.store id).result := by
  have houtcome : Outcome.ofEndpoint service.limits service.store occasion request
      (.delete segment) = some (Outcome.delete service.store id) := by
    rw [Outcome.ofEndpoint, hid, Option.map_some]
  exact congrArg Prod.fst (service.respond_of_endpoint? occasion hendpoint houtcome)

/-- **A rule that is not stored is unknown,** whatever is asked about it. -/
theorem response_unknown (hunknown : service.store.rules.get? id = none)
    (hnames : request.Names id) :
    (service.exchange occasion request).reply.response =
      .refused (.fault (.ruleNotFound id)) := by
  have hload : service.store.load id = .error (.ruleNotFound id) := by
    rw [Store.load, hunknown]
  cases hnames with
  | fetch hendpoint hid =>
    rw [response_fetch occasion hendpoint hid, Outcome.fetch, hload]
    rfl
  | delete hendpoint hid =>
    rw [response_delete occasion hendpoint hid, Outcome.delete, Store.delete, hunknown]
    rfl
  | @evaluate body hendpoint hbody hid =>
    have htarget : Outcome.target service.store body = .error (.fault (.ruleNotFound id)) := by
      rw [Outcome.target, Request.ast_of_readEvaluate hbody hid, hid]
      dsimp only
      rw [hload]
    have hread : request.readChecked EvaluateBody.ofDraft EvaluateBody.complaints = .ok body :=
      hbody
    refine (service.response_evaluate occasion hendpoint).trans ?_
    rw [Outcome.evaluate, hread]
    dsimp only
    rw [htarget]
    rfl

/-- The reply to a request brings its response along, unless only the head is asked for. -/
theorem payload_exchange (service : Service) (hmethod : request.method ≠ "HEAD") :
    (service.exchange occasion request).reply.payload =
      (service.exchange occasion request).reply.response.payload :=
  if_neg hmethod

/-- A rule that is made is handed out as it is shown later. -/
theorem payload_of_created {creation : Exchange} {definition : Definition} (service : Service)
    (hmade : creation = service.exchange occasion creation.request)
    (hcreated : creation.created? = some definition) :
    creation.reply.payload = (Response.answered (.found definition)).payload := by
  obtain ⟨hendpoint, hresponse⟩ := Exchange.created?_eq_some_iff.1 hcreated
  have hmethod : creation.request.method ≠ "HEAD" := by
    rw [Request.method_of_create hendpoint]
    decide
  have hpayload := service.payload_exchange occasion hmethod
  rw [← hmade, hresponse] at hpayload
  exact hpayload

/-! ## Whole lives -/

/-- **A service keeps what it has made until it is asked to remove it.** Behind every run in which
no id is drawn twice, the rules of the store are those that were made with success and not removed
with success. Whatever comes next changes the store only if it makes or removes a rule with success.
A rule that has not been removed is shown as it was handed out when it was made; a rule that has
been removed is not found, whether it is to be shown, removed or evaluated; and the service tells
how many rules are stored.

**Proof sketch.** The log accounts for the store (`accounts`). A rule in it is loaded by its id, and
an id that was removed belongs to none of its rules. -/
theorem keeps_what_it_created (limits : EngineSettings) (before : List (Occasion × Request))
    (hdrawn : (drawn before).Nodup) (occasion : Occasion) (request : Request) :
    let service := (fresh limits).after before
    let log := (fresh limits).log before
    let exchange := service.exchange occasion request
    (service.store.definitions = (created log).filter fun definition =>
      definition.id ∉ removed log) ∧
    (∀ earlier ∈ log,
      (earlier.created?.isSome ↔
        earlier.request.endpoint? = some .create ∧ earlier.reply.status = 200) ∧
      (earlier.removed?.isSome ↔
        (∃ segment, earlier.request.endpoint? = some (.delete segment)) ∧
          earlier.reply.status = 200)) ∧
    (¬(request.Writes ∧ exchange.reply.status = 200) →
      (service.answer occasion request).2.store = service.store) ∧
    (∀ creation ∈ log, ∀ definition segment, creation.created? = some definition →
      definition.id ∉ removed log → request.endpoint? = some (.fetch segment) →
      Percent.decode? segment = some definition.id →
        exchange.reply.status = 200 ∧ exchange.reply.response = .answered (.found definition) ∧
          (request.method = "GET" → exchange.reply.payload = creation.reply.payload)) ∧
    (∀ id ∈ removed log, request.Names id →
      exchange.reply.status = 404 ∧
        exchange.reply.response = .refused (.fault (.ruleNotFound id)) ∧
        (Refusal.fault (.ruleNotFound id)).code = "RULE_NOT_FOUND") ∧
    (request.endpoint? = some .health →
      exchange.reply.response = .answered (.healthy service.store.definitions.length)) := by
  intro service log exchange
  have haccounts : Accounts before log service.store := accounts limits hdrawn
  refine ⟨haccounts.definitions, ?_, ?_, ?_, ?_, ?_⟩
  · intro earlier hearlier
    obtain ⟨point, drawnAt, hmade⟩ := (fresh limits).exists_of_mem_log before hearlier
    have heffect := point.effect drawnAt earlier.request
    rw [← hmade] at heffect
    exact ⟨heffect.isSome_created?_iff, heffect.isSome_removed?_iff⟩
  · exact (service.effect occasion request).store_eq
  · intro creation hcreation definition segment hcreated hkept hendpoint hid
    have hmem : definition ∈ service.store.definitions := by
      rw [haccounts.definitions, List.mem_filter]
      exact ⟨List.mem_filterMap.2 ⟨creation, hcreation, hcreated⟩, decide_eq_true hkept⟩
    obtain ⟨compiled, hload, hdefinition⟩ := haccounts.sound.exists_load hmem
    have hresponse : exchange.reply.response = .answered (.found definition) := by
      rw [response_fetch occasion hendpoint hid, Outcome.fetch, hload, ← hdefinition]
      rfl
    refine ⟨Reply.status_of_answered hresponse, hresponse, ?_⟩
    intro hmethod
    obtain ⟨point, drawnAt, hmade⟩ := (fresh limits).exists_of_mem_log before hcreation
    have hget : request.method ≠ "HEAD" := by
      rw [hmethod]
      decide
    rw [payload_of_created drawnAt point hmade hcreated, ← hresponse]
    exact service.payload_exchange occasion hget
  · intro id hremoved hnames
    have hunknown : service.store.rules.get? id = none := by
      refine Store.get?_eq_none haccounts.sound fun definition hmem => ?_
      rintro rfl
      rw [haccounts.definitions, List.mem_filter] at hmem
      exact of_decide_eq_true hmem.2 hremoved
    have hresponse := response_unknown occasion hunknown hnames
    refine ⟨?_, hresponse, rfl⟩
    rw [Reply.status, hresponse]
    rfl
  · intro hendpoint
    rw [Store.length_definitions]
    show (service.respond occasion request).1 = _
    rw [service.respond_of_endpoint? occasion hendpoint rfl]
    rfl

/-- A run in which two rules are made and the first is removed. -/
def briefRun : List (Occasion × Request) :=
  let body := Json.objectText [("rule", (Json.string "a = true").text)]
  [(⟨"1", "x", "now", 0⟩, .post "/api/rules/create" body),
    (⟨"2", "y", "now", 0⟩, .post "/api/rules/create" body),
    (⟨"3", "z", "now", 0⟩, ⟨"DELETE", "/api/rules/1", none, "", none⟩)]

/-- The request for the first rule of that run to be shown. -/
def briefRequest : Request := ⟨"GET", "/api/rules/1", none, "", none⟩

/-- Behind that run the second rule is stored, and the first is not found. -/
theorem keeps_what_it_created_brief :
    (drawn briefRun).Nodup ∧
    (created ((fresh {}).log briefRun)).map Definition.id = ["1", "2"] ∧
    ((fresh {}).after briefRun).store.definitions.map Definition.id = ["2"] ∧
    (((fresh {}).after briefRun).exchange ⟨"4", "w", "now", 0⟩ briefRequest).reply.response =
      .refused (.fault (.ruleNotFound "1")) := by
  have hdrawn : (drawn briefRun).Nodup := by decide +kernel
  have hremoved : removed ((fresh {}).log briefRun) = ["1"] := by decide +kernel
  have hlife := keeps_what_it_created {} briefRun hdrawn ⟨"4", "w", "now", 0⟩ briefRequest
  obtain ⟨hdefinitions, -, -, -, hgone, -⟩ := hlife
  have hnames : briefRequest.Names "1" := by
    have hendpoint : briefRequest.endpoint? = some (.fetch ['1']) := by decide +kernel
    exact .fetch hendpoint (by decide +kernel)
  refine ⟨hdrawn, by decide +kernel, ?_, ?_⟩
  · rw [hdefinitions, hremoved]
    decide +kernel
  · exact (hgone "1" (by rw [hremoved]; exact List.mem_singleton_self _) hnames).2.1

end Service

end Criteria

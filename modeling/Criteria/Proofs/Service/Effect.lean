import Criteria.Proofs.Service.Endpoint
import Criteria.Proofs.Store.Invariant

/-!
# What a request does to the store

A request makes one rule, removes one rule, or leaves the store as it was, and its reply tells
which.

## Main definitions

* `Criteria.Store.definitions` — the rules of a store, with what they are kept with.
* `Criteria.Exchange` — a request with the reply to it; `Criteria.Exchange.created?` and
  `Criteria.Exchange.removed?`, what it makes and what it removes.
* `Criteria.Exchange.Effect` — all that an exchange can do.

## Main results

* `Criteria.Store.definitions_save`, `Criteria.Store.Sound.definitions_delete` — the definitions
  after a rule has been saved or removed.
* `Criteria.Service.effect` — every exchange has one of the effects.
* `Criteria.Exchange.Effect.isSome_created?_iff`, `Criteria.Exchange.Effect.isSome_removed?_iff` —
  the effects are told by the endpoint and the status alone.
-/

set_option autoImplicit false
set_option relaxedAutoImplicit false

namespace Criteria

/-! ## The definitions in a store -/

/-- Putting a value under a new name adds an entry at the end. -/
theorem Table.put_of_not_mem {α : Type} {name : String} (value : α)
    {entries : List (String × α)} (h : name ∉ entries.map Prod.fst) :
    put name value entries = entries ++ [(name, value)] := by
  induction entries with
  | nil => rfl
  | cons entry rest ih =>
    rw [List.map_cons, List.mem_cons, not_or] at h
    rw [put, if_neg (Ne.symm h.1), ih h.2, List.cons_append]

namespace Store

/-- The rules of a store, with what they are kept with. -/
def definitions (store : Store) : List Definition :=
  store.rules.entries.map fun entry => entry.2.definition

/-- There are as many definitions as stored rules. -/
theorem length_definitions (store : Store) : store.definitions.length = store.size :=
  List.length_map _

variable {store after : Store} {definition : Definition} {id saved : String}

/-- A definition of a sound store is loaded by its id. -/
theorem Sound.exists_load (hs : store.Sound) (h : definition ∈ store.definitions) :
    ∃ compiled, store.load definition.id = .ok compiled ∧ compiled.definition = definition := by
  obtain ⟨⟨name, compiled⟩, hmem, rfl⟩ := List.mem_map.1 h
  have hfound := (store.rules.mem_entries_iff name compiled).1 hmem
  refine ⟨compiled, ?_, rfl⟩
  show store.load compiled.definition.id = _
  rw [hs.keyed hfound, load, hfound]

/-- An id without a definition is unknown. -/
theorem get?_eq_none (hs : store.Sound) (h : ∀ definition ∈ store.definitions, definition.id ≠ id) :
    store.rules.get? id = none := by
  by_contra hsome
  obtain ⟨compiled, hfound⟩ := Option.ne_none_iff_exists'.1 hsome
  have hmem := (store.rules.mem_entries_iff id compiled).2 hfound
  exact h compiled.definition (List.mem_map.2 ⟨_, hmem, rfl⟩) (hs.keyed hfound)

/-- **A definition that is saved under a new id comes last.** -/
theorem definitions_save (h : store.save definition = .ok (saved, after))
    (hfresh : store.rules.get? definition.id = none) :
    after.definitions = store.definitions ++ [definition] := by
  rw [save_eq] at h
  split_ifs at h
  obtain ⟨-, rfl⟩ := Prod.mk.inj (Except.ok.inj h)
  have hname : definition.id ∉ store.rules.entries.map Prod.fst := by
    intro hmem
    have hsome := (store.rules.mem_names_iff definition.id).1 hmem
    rw [hfresh] at hsome
    cases hsome
  show (Table.put definition.id _ store.rules.entries).map _ = _
  rw [Table.put_of_not_mem _ hname, List.map_append]
  rfl

/-- **What is removed was there, and everything else stays.** -/
theorem Sound.definitions_delete (hs : store.Sound) (h : store.delete id = .ok after) :
    (∃ definition ∈ store.definitions, definition.id = id) ∧
      after.definitions = store.definitions.filter fun definition => definition.id ≠ id := by
  unfold Store.delete at h
  split at h
  case h_2 => cases h
  case h_1 compiled hfound =>
    obtain rfl := Except.ok.inj h
    have hmem := (store.rules.mem_entries_iff id compiled).2 hfound
    refine ⟨⟨compiled.definition, List.mem_map.2 ⟨_, hmem, rfl⟩, hs.keyed hfound⟩, ?_⟩
    show (store.rules.entries.filter (·.1 != id)).map _ = (store.rules.entries.map _).filter _
    rw [List.filter_map]
    congr 1
    refine List.filter_congr fun entry hentry => ?_
    have hkeyed := hs.keyed ((store.rules.mem_entries_iff entry.1 entry.2).1 hentry)
    rw [Bool.eq_iff_iff]
    simp [hkeyed]

end Store

/-! ## Endpoints -/

namespace Outcome

variable (limits : EngineSettings) (store : Store) (occasion : Occasion) (request : Request)

/-- Making a rule saves a definition under the id that was drawn, or changes nothing. -/
theorem create_cases :
    (∃ definition, (create limits store occasion request).result = .ok (.created definition) ∧
      definition.id = occasion.ruleId ∧
      store.save definition =
        .ok (definition.id, (create limits store occasion request).store)) ∨
    ((∃ refusal, (create limits store occasion request).result = .error refusal) ∧
      (create limits store occasion request).store = store) := by
  unfold create
  split
  · exact .inr ⟨⟨_, rfl⟩, rfl⟩
  · split
    · exact .inr ⟨⟨_, rfl⟩, rfl⟩
    · dsimp only
      split
      · exact .inr ⟨⟨_, rfl⟩, rfl⟩
      · next saved after hsave =>
        refine .inl ⟨_, rfl, rfl, ?_⟩
        have hid := hsave
        rw [Store.save_eq] at hid
        split_ifs at hid
        obtain ⟨rfl, -⟩ := Prod.mk.inj (Except.ok.inj hid)
        exact hsave

/-- Removing a rule removes it from the store, or changes nothing. -/
theorem delete_cases (id : String) :
    ((delete store id).result = .ok .deleted ∧ store.delete id = .ok (delete store id).store) ∨
    ((∃ refusal, (delete store id).result = .error refusal) ∧ (delete store id).store = store) := by
  unfold delete
  cases hdelete : store.delete id with
  | error fault => exact .inr ⟨⟨_, rfl⟩, rfl⟩
  | ok after => exact .inl ⟨rfl, rfl⟩

/-- No other endpoint changes the store. -/
theorem store_ofEndpoint {endpoint : Endpoint} {outcome : Outcome} (hcreate : endpoint ≠ .create)
    (hdelete : ∀ segment, endpoint ≠ .delete segment)
    (h : ofEndpoint limits store occasion request endpoint = some outcome) :
    outcome.store = store := by
  cases endpoint with
  | create => exact absurd rfl hcreate
  | delete segment => exact absurd rfl (hdelete segment)
  | combine =>
    obtain rfl := Option.some.inj h
    unfold combine
    split <;> rfl
  | evaluate =>
    obtain rfl := Option.some.inj h
    unfold evaluate
    split
    · rfl
    · split
      · rfl
      · dsimp only
        split <;> rfl
  | validate =>
    obtain rfl := Option.some.inj h
    unfold validate
    split <;> rfl
  | health =>
    obtain rfl := Option.some.inj h
    rfl
  | fetch segment =>
    obtain ⟨id, -, rfl⟩ := Option.map_eq_some_iff.1 h
    unfold fetch
    split <;> rfl

end Outcome

/-- No refusal has the status of an answer. -/
theorem Refusal.status_ne (refusal : Refusal) : refusal.status ≠ 200 := by
  unfold status
  split
  · decide
  · split_ifs <;> decide
  · decide

/-! ## Exchanges -/

/-- A request changes the store if it makes or removes a rule. -/
inductive Request.Writes (request : Request) : Prop where
  /-- It makes a rule. -/
  | create (hendpoint : request.endpoint? = some .create)
  /-- It removes a rule. -/
  | delete {segment : List Char} (hendpoint : request.endpoint? = some (.delete segment))

/-- A request with the reply to it. -/
structure Exchange where
  /-- The request. -/
  request : Request
  /-- The reply. -/
  reply : Reply

/-- A reply with an answer has the status of one. -/
theorem Reply.status_of_answered {reply : Reply} {answer : Answer}
    (h : reply.response = .answered answer) : reply.status = 200 :=
  congrArg Response.status h

/-- The exchange over a request. -/
def Service.exchange (service : Service) (occasion : Occasion) (request : Request) : Exchange :=
  ⟨request, (service.answer occasion request).1⟩

namespace Exchange

/-- The definition of the rule that an exchange makes. -/
def created? (exchange : Exchange) : Option Definition :=
  match exchange.request.endpoint?, exchange.reply.response with
  | some .create, .answered (.created definition) => some definition
  | _, _ => none

/-- The id of the rule that an exchange removes. -/
def removed? (exchange : Exchange) : Option String :=
  match exchange.request.endpoint?, exchange.reply.response with
  | some (.delete segment), .answered .deleted => Percent.decode? segment
  | _, _ => none

/-- What an exchange can do: `store` is the store in front of it, and `after` the store behind. -/
inductive Effect (store after : Store) (occasion : Occasion) (exchange : Exchange) : Prop where
  /-- A rule is made, under the id that was drawn. -/
  | created {definition : Definition} (hendpoint : exchange.request.endpoint? = some .create)
      (hresponse : exchange.reply.response = .answered (.created definition))
      (hid : definition.id = occasion.ruleId)
      (hsave : store.save definition = .ok (definition.id, after))
  /-- A rule is removed. -/
  | removed {segment : List Char} {id : String}
      (hendpoint : exchange.request.endpoint? = some (.delete segment))
      (hid : Percent.decode? segment = some id)
      (hresponse : exchange.reply.response = .answered .deleted)
      (hdelete : store.delete id = .ok after)
  /-- The store stays as it was. -/
  | unchanged (hstatus : exchange.request.Writes → exchange.reply.status ≠ 200)
      (hstore : after = store)

end Exchange

namespace Service

variable (service : Service) (occasion : Occasion) (request : Request)

/-- A request that comes to nothing at any endpoint is not answered, and leaves the store as it
was. -/
theorem respond_unanswered (h : request.endpoint?.bind
      (Outcome.ofEndpoint service.limits service.store occasion request) = none) :
    (service.respond occasion request).1.status ≠ 200 ∧
      (service.respond occasion request).2.1 = service.store := by
  unfold Request.endpoint? at h
  unfold respond
  cases hroute : Route.ofPath? request.path with
  | none => exact ⟨(by decide : (404 : Nat) ≠ 200), rfl⟩
  | some route =>
    dsimp only
    rw [hroute, Option.bind_some] at h
    cases hendpoint : route.endpoint? request.method with
    | none => exact ⟨(by decide : (405 : Nat) ≠ 200), rfl⟩
    | some endpoint =>
      dsimp only
      rw [hendpoint, Option.bind_some] at h
      rw [h]
      exact ⟨(by decide : (400 : Nat) ≠ 200), rfl⟩

/-- **Every exchange has one of the effects.**

**Proof sketch.** Where rules are made or removed, the store changes if and only if the request is
answered, and no refusal has the status of an answer. No other endpoint changes the store. -/
theorem effect : (service.exchange occasion request).Effect service.store
    (service.answer occasion request).2.store occasion := by
  cases hbind : request.endpoint?.bind
      (Outcome.ofEndpoint service.limits service.store occasion request) with
  | none =>
    obtain ⟨hstatus, hstore⟩ := service.respond_unanswered occasion request hbind
    exact .unchanged (fun _ => hstatus) hstore
  | some outcome =>
    obtain ⟨endpoint, hendpoint, houtcome⟩ := Option.bind_eq_some_iff.1 hbind
    have hrespond := service.respond_of_endpoint? occasion hendpoint houtcome
    have hresponse : (service.exchange occasion request).reply.response =
        .ofResult outcome.result := congrArg Prod.fst hrespond
    have hstore : (service.answer occasion request).2.store = outcome.store :=
      congrArg (·.2.1) hrespond
    have hrefused : ∀ refusal, outcome.result = .error refusal →
        (service.exchange occasion request).reply.status ≠ 200 := by
      intro refusal hresult
      rw [Reply.status, hresponse, hresult]
      exact refusal.status_ne
    cases endpoint with
    | create =>
      obtain rfl := Option.some.inj houtcome
      rcases Outcome.create_cases service.limits service.store occasion request with
        ⟨definition, hresult, hid, hsave⟩ | ⟨⟨refusal, hresult⟩, hsame⟩
      · rw [hresult] at hresponse
        rw [← hstore] at hsave
        exact .created hendpoint hresponse hid hsave
      · exact .unchanged (fun _ => hrefused refusal hresult) (hstore.trans hsame)
    | delete segment =>
      obtain ⟨id, hid, rfl⟩ := Option.map_eq_some_iff.1 houtcome
      rcases Outcome.delete_cases service.store id with
        ⟨hresult, hdelete⟩ | ⟨⟨refusal, hresult⟩, hsame⟩
      · rw [hresult] at hresponse
        rw [← hstore] at hdelete
        exact .removed hendpoint hid hresponse hdelete
      · exact .unchanged (fun _ => hrefused refusal hresult) (hstore.trans hsame)
    | combine | evaluate | validate | health | fetch =>
      refine .unchanged ?_ (hstore.trans
        (Outcome.store_ofEndpoint _ _ _ _ (by simp) (by simp) houtcome))
      rintro (h | h) <;> exact absurd (hendpoint.symm.trans h) (by simp)

end Service

namespace Exchange

variable {store after : Store} {occasion : Occasion} {exchange : Exchange}

/-- What is made is the definition in the answer. -/
theorem created?_eq_some_iff {definition : Definition} :
    exchange.created? = some definition ↔ exchange.request.endpoint? = some .create ∧
      exchange.reply.response = .answered (.created definition) := by
  unfold created?
  split
  case h_1 hendpoint hresponse => simp [hendpoint, hresponse]
  case h_2 hother =>
    simp only [reduceCtorEq, false_iff, not_and]
    exact fun hendpoint hresponse => hother definition hendpoint hresponse

/-- What is removed is the rule under the id in the path. -/
theorem removed?_eq_some_iff {id : String} :
    exchange.removed? = some id ↔ ∃ segment, exchange.request.endpoint? = some (.delete segment) ∧
      Percent.decode? segment = some id ∧ exchange.reply.response = .answered .deleted := by
  unfold removed?
  split
  case h_1 segment hendpoint hresponse => simp [hendpoint, hresponse]
  case h_2 hother =>
    simp only [reduceCtorEq, false_iff, not_exists, not_and]
    exact fun segment hendpoint _ hresponse => hother segment hendpoint hresponse

/-- An exchange that makes a rule has the status of an answer. -/
theorem writes_of_created? (h : exchange.created?.isSome) :
    exchange.request.endpoint? = some .create ∧ exchange.reply.status = 200 := by
  obtain ⟨definition, hcreated⟩ := Option.isSome_iff_exists.1 h
  obtain ⟨hendpoint, hresponse⟩ := created?_eq_some_iff.1 hcreated
  exact ⟨hendpoint, Reply.status_of_answered hresponse⟩

/-- An exchange that removes a rule has the status of an answer. -/
theorem writes_of_removed? (h : exchange.removed?.isSome) :
    (∃ segment, exchange.request.endpoint? = some (.delete segment)) ∧
      exchange.reply.status = 200 := by
  obtain ⟨id, hremoved⟩ := Option.isSome_iff_exists.1 h
  obtain ⟨segment, hendpoint, -, hresponse⟩ := removed?_eq_some_iff.1 hremoved
  exact ⟨⟨segment, hendpoint⟩, Reply.status_of_answered hresponse⟩

namespace Effect

/-- **An exchange has made a rule if and only if it asks for that with success.** -/
theorem isSome_created?_iff (h : exchange.Effect store after occasion) :
    exchange.created?.isSome ↔
      exchange.request.endpoint? = some .create ∧ exchange.reply.status = 200 := by
  refine ⟨writes_of_created?, ?_⟩
  rintro ⟨hendpoint, hstatus⟩
  cases h with
  | created _ hresponse _ _ =>
    rw [created?_eq_some_iff.2 ⟨hendpoint, hresponse⟩]
    rfl
  | removed hendpoint' _ _ _ => exact absurd (hendpoint.symm.trans hendpoint') (by simp)
  | unchanged hrefused _ => exact absurd hstatus (hrefused (.create hendpoint))

/-- **An exchange has removed a rule if and only if it asks for that with success.** -/
theorem isSome_removed?_iff (h : exchange.Effect store after occasion) :
    exchange.removed?.isSome ↔
      (∃ segment, exchange.request.endpoint? = some (.delete segment)) ∧
        exchange.reply.status = 200 := by
  refine ⟨writes_of_removed?, ?_⟩
  rintro ⟨⟨segment, hendpoint⟩, hstatus⟩
  cases h with
  | created hendpoint' _ _ _ => exact absurd (hendpoint.symm.trans hendpoint') (by simp)
  | removed hendpoint' hid hresponse _ =>
    rw [removed?_eq_some_iff.2 ⟨_, hendpoint', hid, hresponse⟩]
    rfl
  | unchanged hrefused _ => exact absurd hstatus (hrefused (.delete hendpoint))

/-- **The store changes only if a rule is made or removed with success.** -/
theorem store_eq (h : exchange.Effect store after occasion)
    (hother : ¬(exchange.request.Writes ∧ exchange.reply.status = 200)) : after = store := by
  cases h with
  | created hendpoint hresponse _ _ =>
    exact absurd ⟨.create hendpoint, Reply.status_of_answered hresponse⟩ hother
  | removed hendpoint _ hresponse _ =>
    exact absurd ⟨.delete hendpoint, Reply.status_of_answered hresponse⟩ hother
  | unchanged _ hstore => exact hstore

/-- **What an exchange has done is told by what it has made and removed.** -/
theorem cases_created?_removed? (h : exchange.Effect store after occasion) :
    (∃ definition, exchange.created? = some definition ∧ exchange.removed? = none ∧
      exchange.request.endpoint? = some .create ∧ definition.id = occasion.ruleId ∧
      store.save definition = .ok (definition.id, after)) ∨
    (∃ id, exchange.created? = none ∧ exchange.removed? = some id ∧
      store.delete id = .ok after) ∨
    (exchange.created? = none ∧ exchange.removed? = none ∧ after = store) := by
  cases h with
  | created hendpoint hresponse hid hsave =>
    refine .inl ⟨_, created?_eq_some_iff.2 ⟨hendpoint, hresponse⟩, ?_, hendpoint, hid, hsave⟩
    rw [removed?, hendpoint]
  | removed hendpoint hid hresponse hdelete =>
    refine .inr (.inl ⟨_, ?_, removed?_eq_some_iff.2 ⟨_, hendpoint, hid, hresponse⟩, hdelete⟩)
    rw [created?, hendpoint]
  | unchanged hrefused hstore =>
    refine .inr (.inr ⟨Option.not_isSome_iff_eq_none.1 ?_, Option.not_isSome_iff_eq_none.1 ?_,
      hstore⟩)
    · intro hcreated
      obtain ⟨hendpoint, hstatus⟩ := writes_of_created? hcreated
      exact hrefused (.create hendpoint) hstatus
    · intro hremoved
      obtain ⟨⟨segment, hendpoint⟩, hstatus⟩ := writes_of_removed? hremoved
      exact hrefused (.delete hendpoint) hstatus

end Effect

end Exchange

end Criteria

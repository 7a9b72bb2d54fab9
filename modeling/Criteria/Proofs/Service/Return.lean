import Criteria.Proofs.Rule.Chain
import Criteria.Proofs.Service.Posting
import Criteria.Proofs.Service.Reachable

/-!
# What is handed out and handed back

The trees that a service hands out are JSON objects. Posted back to it, they are taken for the
rules they are, unless they nest too deep to be read: bodies may nest `maxLevels` deep, and the body
itself is one of these levels. Nothing keeps a service from handing out deeper trees.

## Main definitions

* `Criteria.Rule.verdict` — what a service should say about an evaluation.

## Main results

* `Criteria.Answer.draft_data` — what the data of an answer with a rule are read as.
* `Criteria.Service.takes_back` — what is handed out is taken back if and only if it is not too
  deep.
* `Criteria.Service.response_createChain`, `Criteria.Service.posts_validateChain` — chains of any
  depth are handed out, and their trees are small enough to be posted.
-/

set_option autoImplicit false
set_option relaxedAutoImplicit false

namespace Criteria

/-- What a service says about the evaluation of a rule: its result, or the code of its fault. -/
def Rule.verdict (rule : Rule) (record : Record) : Except String Bool :=
  (rule.evaluate record).mapError fun fault => (Refusal.fault fault).code

/-- What comes of an evaluation is what comes of the rule that is evaluated. -/
theorem Outcome.verdict_of_target {store : Store} {body : EvaluateBody} {found : Target}
    (h : target store body = .ok found) :
    (verdict store body).mapError Refusal.code = found.rule.verdict body.data := by
  unfold verdict Rule.verdict
  rw [h]
  show ((found.rule.evaluate body.data).mapError .fault).mapError Refusal.code = _
  cases found.rule.evaluate body.data <;> rfl

/-- An outline that comes with a request is the rule that is evaluated. -/
theorem Outcome.target_ast (store : Store) {outline : Outline} {rule : Rule}
    (h : outline.toRule = .ok rule) (record : Record) :
    target store ⟨some outline, none, record, none⟩ = .ok ⟨"", "", rule⟩ := by
  unfold target
  dsimp only
  rw [h]

/-- An id that comes with a request stands for the rule that is stored under it. -/
theorem Outcome.target_ruleId {store : Store} {id : String} {compiled : Compiled}
    (h : store.load id = .ok compiled) (record : Record) :
    target store ⟨none, some id, record, none⟩ =
      .ok ⟨compiled.definition.id, compiled.definition.name, compiled.definition.rule⟩ := by
  unfold target
  dsimp only
  rw [h]

/-- The data of an answer with a rule are read as the outline of the rule, among members that no
outline has. -/
theorem Answer.draft_data {answer : Answer} {rule : Rule} (h : answer.rule? = some rule) :
    ∃ front, Outline.Ignored front ∧
      answer.data.draft = .object (front ++ (Outline.ofRule rule).draftMembers) true := by
  -- A rule that is kept comes with its id, its name and the time of its creation.
  have hkept : ∀ definition : Definition, ∃ front, Outline.Ignored front ∧
      (definitionJson definition).draft =
        .object (front ++ (Outline.ofRule definition.rule).draftMembers) true := by
    intro definition
    refine ⟨[(some "id", .string (some definition.id)),
      (some "name", .string (some definition.name)),
      (some "createdAt", .string (some definition.createdAt))], ?_, ?_⟩
    · intro member hmem
      simp only [List.mem_cons, List.not_mem_nil, or_false] at hmem
      rcases hmem with rfl | rfl | rfl <;> exact ⟨_, rfl, by decide, rfl⟩
    · rw [definitionJson, Json.draft, Json.memberDrafts_eq, List.map_append]
      rfl
  cases answer with
  | created definition => cases h; exact hkept definition
  | combined combined =>
    cases h
    exact ⟨[], Outline.ignored_nil, Outline.draft_json _⟩
  | found definition => cases h; exact hkept definition
  | _ => exact nomatch h

/-- The outline of a rule is read from the data of an answer if the rule has fewer levels than a
body may have. -/
theorem Answer.ofDraft_data {answer : Answer} {rule : Rule} (h : answer.rule? = some rule) :
    Outline.ofDraft (maxLevels - 1) answer.data.draft =
      if rule.depth < maxLevels then .ok (Outline.ofRule rule) else .error .malformed := by
  obtain ⟨front, hfront, hdraft⟩ := Answer.draft_data h
  have hdepth : rule.depth ≤ maxLevels - 1 ↔ rule.depth < maxLevels := by
    unfold maxLevels
    omega
  rw [hdraft, Outline.ofDraft_members _ _ hfront, Outline.depth_ofRule]
  simp only [hdepth]

namespace Service

variable (service : Service) (occasion : Occasion) {request : Request} {answer : Answer}
  {rule : Rule}

/-- What a service says to the tree of a valid rule that is posted to be checked. -/
theorem response_validate_data (hrule : answer.rule? = some rule) (hissues : rule.issues = [])
    (hposts : request.Posts .validate (Json.objectText [("ast", answer.data.text)])) :
    (service.answer occasion request).1.response =
      if rule.depth < maxLevels then .answered (.validated [])
      else .refused (.invalidRequest (Request.misreadReason .malformed)) := by
  have hbody : Draft.IsText (Json.objectText [("ast", answer.data.text)]).toList
      (.object [(some "ast", answer.data.draft)] true) :=
    Json.isText_objectText [("ast", answer.data.text, answer.data.draft)]
      (List.forall_mem_singleton.mpr (Json.isText_text answer.data))
  rw [service.response_posts_validate occasion hposts hbody, ValidateBody.ofDraft_ast,
    Answer.ofDraft_data hrule]
  by_cases hdepth : rule.depth < maxLevels
  · rw [if_pos hdepth, if_pos hdepth, ← (Outline.toRule_ofRule hissues).1]
    rfl
  · rw [if_neg hdepth, if_neg hdepth]
    rfl

variable {data : String} {record : Record}

/-- What a service says about the evaluation of a valid rule of which the tree is posted. -/
theorem verdict?_evaluate_data (hrule : answer.rule? = some rule) (hissues : rule.issues = [])
    (hdata : Record.ofJson data = .ok record)
    (hposts : request.Posts .evaluate
      (Json.objectText [("ast", answer.data.text), ("data", data)])) :
    (service.answer occasion request).1.response.verdict? =
      some (if rule.depth < maxLevels then rule.verdict record
        else .error "INVALID_REQUEST") := by
  obtain ⟨draft, hdatatext, hrecord⟩ := Record.exists_isText_of_ofJson hdata
  obtain ⟨front, hfront, hdraft⟩ := Answer.draft_data hrule
  have hbody : Draft.IsText (Json.objectText [("ast", answer.data.text), ("data", data)]).toList
      (.object [(some "ast", answer.data.draft), (some "data", draft)] true) :=
    Json.isText_objectText [("ast", answer.data.text, answer.data.draft), ("data", data, draft)]
      (by simpa using ⟨Json.isText_text answer.data, hdatatext⟩)
  have hread : EvaluateBody.ofDraft
      (.object [(some "ast", answer.data.draft), (some "data", draft)] true) =
        if rule.depth < maxLevels then .ok ⟨some (Outline.ofRule rule), none, record, none⟩
        else .error .malformed := by
    rw [hdraft, EvaluateBody.ofDraft_ast, ← hdraft, Answer.ofDraft_data hrule, hrecord]
    split <;> rfl
  rw [service.verdict?_posts_evaluate occasion hposts hbody, hread]
  by_cases hdepth : rule.depth < maxLevels
  · have htoRule := (Outline.toRule_ofRule hissues).2
    rw [if_pos hdepth, if_pos hdepth]
    exact congrArg some
      (Outcome.verdict_of_target (Outcome.target_ast service.store htoRule record))
  · rw [if_neg hdepth, if_neg hdepth]
    rfl

/-- What a service says about the evaluation of a rule of which the id is posted. -/
theorem verdict?_evaluate_ruleId {id : String} {compiled : Compiled}
    (hload : service.store.load id = .ok compiled) (hdata : Record.ofJson data = .ok record)
    (hposts : request.Posts .evaluate
      (Json.objectText [("ruleId", (Json.string id).text), ("data", data)])) :
    (service.answer occasion request).1.response.verdict? =
      some (compiled.definition.rule.verdict record) := by
  obtain ⟨draft, hdatatext, hrecord⟩ := Record.exists_isText_of_ofJson hdata
  have hbody : Draft.IsText
      (Json.objectText [("ruleId", (Json.string id).text), ("data", data)]).toList
      (.object [(some "ruleId", .string (some id)), (some "data", draft)] true) :=
    Json.isText_objectText
      [("ruleId", (Json.string id).text, .string (some id)), ("data", data, draft)]
      (by simpa using ⟨Json.isText_text (.string id), hdatatext⟩)
  rw [service.verdict?_posts_evaluate occasion hposts hbody, EvaluateBody.ofDraft_ruleId, hrecord]
  exact congrArg some (Outcome.verdict_of_target (Outcome.target_ruleId hload record))

/-! ## Chains that are handed out -/

/-- The length of the JSON text of a rule that is kept. -/
theorem length_definitionJson_le (definition : Definition) :
    (Answer.definitionJson definition).text.length ≤
      (Outline.ofRule definition.rule).json.chars.length +
        6 * (definition.id.length + definition.name.length + definition.createdAt.length) + 33 := by
  obtain ⟨first, rest, hmembers⟩ : ∃ first rest,
      (Outline.ofRule definition.rule).members = first :: rest := by
    cases definition.rule <;> exact ⟨_, _, rfl⟩
  have hid := Json.length_quote_le definition.id
  have hname := Json.length_quote_le definition.name
  have hcreated := Json.length_quote_le definition.createdAt
  have hidKey : (Json.quote "id").length = 4 := by decide
  have hnameKey : (Json.quote "name").length = 6 := by decide
  have hcreatedKey : (Json.quote "createdAt").length = 11 := by decide
  rw [Json.text, String.length_ofList, Answer.definitionJson, Outline.json, hmembers]
  simp only [Json.chars, List.cons_append, List.nil_append, Json.memberChars, List.length_cons,
    List.length_append, List.length_nil, hidKey, hnameKey, hcreatedKey]
  omega

/-- The definition of a chain without a name. -/
def chainDefinition (n : Nat) : Definition := ⟨"1", Outcome.defaultName, .chain n, "now"⟩

/-- The request for a chain to be kept. -/
def createChain (n : Nat) : Request :=
  .post "/api/rules/create" (Json.objectText [("rule", (Json.string (Rule.chain n).text).text)])

/-- The request for the tree of a chain to be checked. -/
def validateChain (n : Nat) : Request :=
  .post "/api/rules/validate"
    (Json.objectText [("ast", (Answer.created (chainDefinition n)).data.text)])

/-- The occasion of these requests. -/
def chainOccasion : Occasion := ⟨"1", "request", "now", 0⟩

/-- A chain is handed out when it is kept, however deep it is, if its text is short enough. -/
theorem response_createChain {n : Nat} (hservice : 13 * n + 8 ≤ service.limits.maxRuleLength)
    (hsize : n ≤ 1000) :
    (service.answer chainOccasion (createChain n)).1.response =
      .answered (.created (chainDefinition n)) := by
  have hread : Rule.ofText (Rule.chain n).text = .ok (.chain n) :=
    Rule.ofText_text (Rule.issues_chain n)
  have hlength : (Rule.chain n).text.length ≤ service.limits.maxRuleLength := by
    rw [Rule.length_text_chain]
    exact hservice
  refine service.response_posts_create chainOccasion (Request.posts_post ?_ ?_) hread hlength
    (by decide)
  · decide +kernel
  · have hquote := Json.length_quote_le (Rule.chain n).text
    have htext : (Json.string (Rule.chain n).text).text.length =
        (Json.quote (Rule.chain n).text).length := String.length_ofList
    have hbody := Json.utf8ByteSize_objectText_le
      [("rule", (Json.string (Rule.chain n).text).text)]
    have hkey : "rule".length = 4 := rfl
    rw [Rule.length_text_chain] at hquote
    simp only [List.map_cons, List.map_nil, List.sum_cons, List.sum_nil] at hbody
    unfold Request.maxBodySize
    omega

/-- The tree of a chain that is posted to be checked. -/
theorem posts_validateChain {n : Nat} (hsize : n ≤ 1000) :
    (validateChain n).Posts .validate
      (Json.objectText [("ast", (Answer.created (chainDefinition n)).data.text)]) := by
  refine Request.posts_post ?_ ?_
  · decide +kernel
  · have hdata : (Answer.created (chainDefinition n)).data.text.length ≤ 87 * n + 200 := by
      refine (length_definitionJson_le (chainDefinition n)).trans ?_
      have hchars := Outline.length_chars_chain n
      have hname : Outcome.defaultName.length = 7 := rfl
      have hid : "1".length = 1 := rfl
      have hnow : "now".length = 3 := rfl
      simp only [chainDefinition]
      omega
    have hbody := Json.utf8ByteSize_objectText_le
      [("ast", (Answer.created (chainDefinition n)).data.text)]
    have hkey : "ast".length = 3 := rfl
    simp only [List.map_cons, List.map_nil, List.sum_cons, List.sum_nil] at hbody
    unfold Request.maxBodySize
    omega

/-! ## All that is handed out -/

/-- **What is handed out is taken back,** whatever a service was asked before it handed it out, by
every service and at any time. The tree of a rule that is posted to be checked has no issues, and
posted to be evaluated it comes to what the rule itself comes to, as does the id under which the
rule is stored. All this is so if the rule has fewer levels than a body may have; if not, its tree
is refused as unreadable.

**Proof sketch.** The rule is valid, since nothing else is handed out. Its tree is written as JSON
text, which is read as a draft wherever it stands; the outline in it is found again if and only if
there are levels enough; and the outline of a valid rule has no issues and is read as the rule. -/
theorem takes_back {limits : EngineSettings} {requests : List (Occasion × Request)} {reply : Reply}
    (hreply : reply ∈ ((Service.fresh limits).answerAll requests).1) {answer : Answer}
    {rule : Rule} (hanswer : reply.response = .answered answer) (hrule : answer.rule? = some rule)
    (service : Service) (occasion : Occasion) (request : Request) :
    (request.Posts .validate (Json.objectText [("ast", answer.data.text)]) →
      (service.answer occasion request).1.response =
        if rule.depth < maxLevels then .answered (.validated [])
        else .refused (.invalidRequest (Request.misreadReason .malformed))) ∧
    ∀ (data : String) (record : Record), Record.ofJson data = .ok record →
      (request.Posts .evaluate (Json.objectText [("ast", answer.data.text), ("data", data)]) →
        (service.answer occasion request).1.response.verdict? =
          some (if rule.depth < maxLevels then rule.verdict record
            else .error "INVALID_REQUEST")) ∧
      ∀ (id : String) (compiled : Compiled), service.store.load id = .ok compiled →
        compiled.definition.rule = rule →
        request.Posts .evaluate
          (Json.objectText [("ruleId", (Json.string id).text), ("data", data)]) →
        (service.answer occasion request).1.response.verdict? = some (rule.verdict record) := by
  have hissues : rule.issues = [] := issues_of_answerAll Store.sound_fresh hreply hanswer hrule
  refine ⟨service.response_validate_data occasion hrule hissues, ?_⟩
  intro data record hdata
  refine ⟨service.verdict?_evaluate_data occasion hrule hissues hdata, ?_⟩
  rintro id compiled hload rfl hposts
  exact service.verdict?_evaluate_ruleId occasion hload hdata hposts

/-- The deepest chain that is taken back has 126 conditions. -/
theorem takes_back_chain :
    ((fresh {}).answer chainOccasion (createChain 125)).1.response =
      .answered (.created (chainDefinition 125)) ∧
    (validateChain 125).Posts .validate
      (Json.objectText [("ast", (Answer.created (chainDefinition 125)).data.text)]) ∧
    (((fresh {}).answer chainOccasion (createChain 125)).2.answer chainOccasion
      (validateChain 125)).1.response = .answered (.validated []) := by
  have hcreated : ((fresh {}).answer chainOccasion (createChain 125)).1.response =
      .answered (.created (chainDefinition 125)) :=
    response_createChain (fresh {}) (by decide) (by decide)
  have hposts := posts_validateChain (n := 125) (by decide)
  have hreply : ((fresh {}).answer chainOccasion (createChain 125)).1 ∈
      ((fresh {}).answerAll [(chainOccasion, createChain 125)]).1 := List.mem_singleton_self _
  have hback := (takes_back hreply hcreated rfl
    ((fresh {}).answer chainOccasion (createChain 125)).2 chainOccasion
    (validateChain 125)).1 hposts
  have hdepth : (Rule.chain 125).depth < maxLevels := by
    rw [Rule.depth_chain]
    decide
  refine ⟨hcreated, hposts, hback.trans (if_pos hdepth)⟩

/-- A chain of 127 conditions is handed out, and its tree is refused as unreadable. -/
theorem chain_not_taken_back :
    ((fresh {}).answer chainOccasion (createChain 126)).1.response =
      .answered (.created (chainDefinition 126)) ∧
    (validateChain 126).Posts .validate
      (Json.objectText [("ast", (Answer.created (chainDefinition 126)).data.text)]) ∧
    (((fresh {}).answer chainOccasion (createChain 126)).2.answer chainOccasion
      (validateChain 126)).1.response =
        .refused (.invalidRequest "Failed to parse the request body as JSON") := by
  have hposts := posts_validateChain (n := 126) (by decide)
  have hdepth : ¬(Rule.chain 126).depth < maxLevels := by
    rw [Rule.depth_chain]
    decide
  have hrule : (Answer.created (chainDefinition 126)).rule? = some (.chain 126) := rfl
  have hrefused := response_validate_data ((fresh {}).answer chainOccasion (createChain 126)).2
    chainOccasion hrule (Rule.issues_chain 126) hposts
  exact ⟨response_createChain (fresh {}) (by decide) (by decide), hposts,
    hrefused.trans (if_neg hdepth)⟩

end Service

end Criteria

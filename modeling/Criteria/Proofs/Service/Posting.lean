import Criteria.Proofs.Outline.Text
import Criteria.Proofs.Service.Evaluation
import Criteria.Proofs.Store.Invariant
import Mathlib.Data.String.Basic

/-!
# What is posted to a service

A body that is put together from the texts of its members is read member by member, and what it
is read as decides what the service says.

## Main definitions

* `Criteria.Json.objectText` — the text of an object, from the texts of its values.
* `Criteria.Request.Posts` — a request that posts a JSON body of admissible size to an endpoint.

## Main results

* `Criteria.Request.Posts.readChecked` — how the body of such a request is read.
* `Criteria.ValidateBody.ofDraft_ast`, `Criteria.EvaluateBody.ofDraft_ast`,
  `Criteria.EvaluateBody.ofDraft_ruleId` — bodies with an outline or with an id.
* `Criteria.Service.response_posts_validate`, `Criteria.Service.verdict?_posts_evaluate` — what the
  service says to them.
-/

set_option autoImplicit false
set_option relaxedAutoImplicit false

namespace Criteria

/-! ## Bodies -/

/-- The text of an object, from its names and the texts of its values. -/
def Json.objectText (members : List (String × String)) : String :=
  String.ofList ('{' :: (Draft.membersText (members.map fun m => (m.1, m.2.toList)) ++ ['}']))

/-- The text of an object is read member by member. -/
theorem Json.isText_objectText (members : List (String × String × Draft))
    (h : ∀ member ∈ members, Draft.IsText member.2.1.toList member.2.2) :
    Draft.IsText (Json.objectText (members.map fun m => (m.1, m.2.1))).toList
      (.object (members.map fun m => (some m.1, m.2.2)) true) := by
  have hobject := Draft.isText_object (members.map fun m => (m.1, m.2.1.toList, m.2.2))
    (List.forall_mem_map.mpr h)
  rw [Json.objectText, String.toList_ofList]
  simpa only [List.map_map, Function.comp_def] using hobject

/-! ## Sizes -/

/-- A text has at most four bytes for each character. -/
theorem utf8ByteSize_ofList_le (text : List Char) :
    (String.ofList text).utf8ByteSize ≤ 4 * text.length := by
  rw [String.utf8ByteSize_ofList]
  induction text with
  | nil => simp
  | cons c text ih =>
    have hc : c.utf8Size ≤ 4 := c.utf8Size_le_four
    rw [String.utf8Len_cons, List.length_cons]
    omega

/-- A character is escaped by at most six. -/
theorem Json.length_escapeChar_le (c : Char) : (Json.escapeChar c).length ≤ 6 := by
  unfold Json.escapeChar
  repeat' split
  all_goals simp

/-- A text with its quotation marks is at most six times as long, apart from these. -/
theorem Json.length_quote_le (text : String) :
    (Json.quote text).length ≤ 6 * text.length + 2 := by
  have hescape : ∀ chars : List Char, (Json.escape chars).length ≤ 6 * chars.length := by
    intro chars
    induction chars with
    | nil => simp [Json.escape]
    | cons c chars ih =>
      have hc := Json.length_escapeChar_le c
      show (Json.escapeChar c ++ Json.escape chars).length ≤ _
      rw [List.length_append, List.length_cons]
      omega
  have htext := hescape text.toList
  rw [String.length_toList] at htext
  rw [Json.quote, List.length_cons, List.length_append, List.length_singleton]
  omega

/-- The size of an object. -/
theorem Json.utf8ByteSize_objectText_le (members : List (String × String)) :
    (Json.objectText members).utf8ByteSize ≤
      4 * ((members.map fun m => 6 * m.1.length + m.2.length + 4).sum + 2) := by
  have hmembers : ∀ members : List (String × String),
      (Draft.membersText (members.map fun m => (m.1, m.2.toList))).length ≤
        (members.map fun m => 6 * m.1.length + m.2.length + 4).sum := by
    intro members
    induction members with
    | nil => simp [Draft.membersText]
    | cons member rest ih =>
      have hname := Json.length_quote_le member.1
      have hsum : ((member :: rest).map fun m => 6 * m.1.length + m.2.length + 4).sum =
          6 * member.1.length + member.2.length + 4 +
            (rest.map fun m => 6 * m.1.length + m.2.length + 4).sum := by
        rw [List.map_cons, List.sum_cons]
      rw [hsum]
      cases rest with
      | nil =>
        show (Json.quote member.1 ++ ':' :: member.2.toList).length ≤ _
        rw [List.length_append, List.length_cons, String.length_toList]
        omega
      | cons next rest =>
        show (Json.quote member.1 ++ ':' :: (member.2.toList ++ ',' ::
          Draft.membersText ((next :: rest).map fun m => (m.1, m.2.toList)))).length ≤ _
        rw [List.length_append, List.length_cons, List.length_append, List.length_cons,
          String.length_toList]
        omega
  refine (utf8ByteSize_ofList_le _).trans (Nat.mul_le_mul_left 4 ?_)
  have htext := hmembers members
  rw [List.length_cons, List.length_append, List.length_singleton]
  omega

namespace Request

/-- The request that posts a JSON body to a path. -/
def post (path body : String) : Request := ⟨"POST", path, some "application/json", body, none⟩

/-- A request that posts a JSON body of admissible size to an endpoint. -/
structure Posts (request : Request) (endpoint : Endpoint) (body : String) : Prop where
  /-- It leads to the endpoint. -/
  endpoint : request.endpoint? = some endpoint
  /-- Its body is said to be JSON. -/
  json : request.isJson = true
  /-- It has the body. -/
  text : request.body = body
  /-- The body is not too large. -/
  size : body.utf8ByteSize ≤ maxBodySize

/-- The fields of a body are checked after it has been read. -/
theorem readChecked_eq_bind {α : Type} (reader : Draft → Except Misread α)
    (complaints : α → List String) (request : Request) :
    request.readChecked reader complaints = (request.read reader).bind fun body =>
      match complaints body with
      | [] => .ok body
      | lines => .error (.invalidRequest ("\n".intercalate lines)) := by
  unfold readChecked
  cases request.read reader <;> rfl

/-- **How a posted body is read:** as its draft is, and then its fields are checked. -/
theorem Posts.readChecked {α : Type} {request : Request} {endpoint : Endpoint} {body : String}
    {draft : Draft} (h : request.Posts endpoint body) (hbody : Draft.IsText body.toList draft)
    (reader : Draft → Except Misread α) (complaints : α → List String) :
    request.readChecked reader complaints =
      match reader draft with
      | .error misread => .error (.invalidRequest (misreadReason misread))
      | .ok value =>
        match complaints value with
        | [] => .ok value
        | lines => .error (.invalidRequest ("\n".intercalate lines)) := by
  have hread : request.read reader =
      (reader draft).mapError fun misread => .invalidRequest (misreadReason misread) := by
    have hjson : ¬request.isJson = false := by simp [h.json]
    have hsize : ¬maxBodySize < request.body.utf8ByteSize := by
      rw [h.text]
      exact Nat.not_lt.mpr h.size
    rw [read, if_neg hjson, if_neg hsize, h.text, Json.decode_of_isText reader hbody]
  rw [readChecked_eq_bind, hread]
  cases reader draft <;> rfl

/-- What is posted to a path is posted to its endpoint. -/
theorem posts_post {path body : String} {endpoint : Endpoint}
    (hpath : (Route.ofPath? ((RequestTarget.path? path).getD [])).bind
      (fun route => route.endpoint? "POST") = some endpoint)
    (hsize : body.utf8ByteSize ≤ maxBodySize) : (post path body).Posts endpoint body where
  endpoint := hpath
  json := by
    show ((MediaType.read? "application/json").map MediaType.isJson).getD false = true
    decide +kernel
  text := rfl
  size := hsize

end Request

/-! ## Members of bodies -/

namespace Draft

variable {levels : Nat}

/-- A value that is read as a field does not nest, however many levels there are. -/
theorem readField_levels {draft : Draft} {value : Value} (h : draft.readField levels = .ok value)
    (other : Nat) : draft.readField other = .ok value := by
  cases draft with
  | string text => cases text with
    | none => exact nomatch h
    | some text => exact h
  | bool b => exact h
  | number numeral isWhole => exact h
  | _ => exact nomatch h

theorem readFields_levels {record result : Record} {members : List (Option String × Draft)}
    (h : readFields levels record members = .ok result) (other : Nat) :
    readFields other record members = .ok result := by
  induction members generalizing record with
  | nil => exact h
  | cons member members ih =>
    obtain ⟨name, draft⟩ := member
    cases name with
    | none => exact nomatch h
    | some name =>
      rw [readFields] at h ⊢
      cases hfield : draft.readField levels with
      | error misread =>
        rw [hfield] at h
        exact nomatch h
      | ok value =>
        rw [hfield] at h
        rw [readField_levels hfield other]
        exact ih h

/-- A record is read wherever an object may stand. -/
theorem readRecord_levels {draft : Draft} {record : Record}
    (h : draft.readRecord levels = .ok record) (other : Nat) :
    draft.readRecord (other + 1) = .ok record := by
  cases draft with
  | object members closed =>
    cases levels with
    | zero => exact nomatch h
    | succ levels =>
      rw [readRecord] at h ⊢
      cases hfields : readFields levels .empty members with
      | error misread =>
        rw [hfields] at h
        exact nomatch h
      | ok result =>
        rw [hfields] at h
        rw [readFields_levels hfields other]
        exact h
  | _ => cases levels <;> exact nomatch h

end Draft

/-- A text that is a record is the text of a draft that is read as the record wherever an object may
stand. -/
theorem Record.exists_isText_of_ofJson {data : String} {record : Record}
    (h : Record.ofJson data = .ok record) :
    ∃ draft, Draft.IsText data.toList draft ∧
      draft.readRecord (maxLevels - 1) = .ok record := by
  unfold Record.ofJson at h
  cases hdecode : Json.decode (Draft.readRecord maxLevels) data with
  | error misread =>
    rw [hdecode] at h
    exact nomatch h
  | ok found =>
    rw [hdecode] at h
    cases h
    obtain ⟨draft, htext, hfound⟩ := Json.decode_eq_ok_iff.mp hdecode
    exact ⟨draft, htext, Draft.readRecord_levels hfound _⟩

/-- A body with nothing but the text of a rule. -/
theorem CreateBody.ofDraft_rule (text : String) :
    CreateBody.ofDraft (.object [(some "rule", .string (some text))] true) = .ok ⟨text, none⟩ := by
  rfl

/-- A body with an outline to be checked. -/
theorem ValidateBody.ofDraft_ast (ast : Draft) :
    ValidateBody.ofDraft (.object [(some "ast", ast)] true) =
      (Outline.ofDraft (maxLevels - 1) ast).map fun outline => ⟨outline⟩ := by
  rw [ofDraft, Draft.readShape_object _ (by decide), Shape.readMembers_cons _ _ (by simp [shape])]
  show Except.bind (((Outline.ofDraft (maxLevels - 1) ast).map some).bind fun ast => .ok ast) _ = _
  cases Outline.ofDraft (maxLevels - 1) ast <;> rfl

namespace EvaluateBody

/-- A body with an outline and a record. -/
theorem ofDraft_ast (members : List (Option String × Draft)) (data : Draft) :
    EvaluateBody.ofDraft (.object [(some "ast", .object members true), (some "data", data)] true) =
      (Outline.ofDraft (maxLevels - 1) (.object members true)).bind fun outline =>
        (data.readRecord (maxLevels - 1)).map fun record => ⟨some outline, none, record, none⟩ := by
  rw [ofDraft, Draft.readShape_object _ (by decide), Shape.readMembers_cons _ _ (by simp [shape])]
  show Except.bind (Except.bind (((((Outline.ofDraft (maxLevels - 1) (.object members true)).map
    some).map some)).map fun ast => (⟨ast, none, none, none⟩ : Parts)) _) _ = _
  cases Outline.ofDraft (maxLevels - 1) (.object members true) with
  | error misread => rfl
  | ok outline =>
    show Except.bind (shape.readMembers _ _) _ = _
    rw [Shape.readMembers_cons _ _ (by simp [shape])]
    show Except.bind (Except.bind ((((data.readRecord (maxLevels - 1)).map some)).map fun data =>
      (⟨some (some outline), none, data, none⟩ : Parts)) _) _ = _
    cases data.readRecord (maxLevels - 1) <;> rfl

/-- A body with an id and a record. -/
theorem ofDraft_ruleId (id : String) (data : Draft) :
    EvaluateBody.ofDraft (.object [(some "ruleId", .string (some id)), (some "data", data)] true) =
      (data.readRecord (maxLevels - 1)).map fun record => ⟨none, some id, record, none⟩ := by
  rw [ofDraft, Draft.readShape_object _ (by decide), Shape.readMembers_cons _ _ (by simp [shape])]
  show Except.bind (shape.readMembers (⟨none, some (some id), none, none⟩ : Parts) _) _ = _
  rw [Shape.readMembers_cons _ _ (by simp [shape])]
  show Except.bind (Except.bind ((((data.readRecord (maxLevels - 1)).map some)).map fun data =>
    (⟨none, some (some id), data, none⟩ : Parts)) _) _ = _
  cases data.readRecord (maxLevels - 1) <;> rfl

end EvaluateBody

namespace Service

variable (service : Service) (occasion : Occasion) {request : Request} {body : String}
  {draft : Draft}

/-- What a service says to the text of a rule that is posted to be kept. -/
theorem response_posts_create {text : String} {rule : Rule}
    (h : request.Posts .create (Json.objectText [("rule", (Json.string text).text)]))
    (hread : Rule.ofText text = .ok rule) (hlength : text.length ≤ service.limits.maxRuleLength)
    (hid : occasion.ruleId ≠ "") :
    (service.answer occasion request).1.response =
      .answered (.created ⟨occasion.ruleId, Outcome.defaultName, rule, occasion.now⟩) := by
  have hbody : Draft.IsText (Json.objectText [("rule", (Json.string text).text)]).toList
      (.object [(some "rule", .string (some text))] true) :=
    Json.isText_objectText [("rule", (Json.string text).text, .string (some text))]
      (List.forall_mem_singleton.mpr (Json.isText_text (.string text)))
  have hne : text ≠ "" := by
    rintro rfl
    exact nomatch hread
  have hcomplaints : CreateBody.complaints ⟨text, none⟩ = [] := by
    simp [CreateBody.complaints, hne]
  have hrule : Outcome.readRule service.limits text = (.ok rule, [.parsed "ok"]) := by
    unfold Outcome.readRule
    rw [if_neg (Nat.not_lt.mpr hlength), hread]
  have hissues : ¬rule.issues ≠ [] := not_not.mpr (Rule.issues_of_ofText hread)
  rw [response_answer, respond_of_endpoint? service occasion h.endpoint rfl]
  unfold Outcome.create
  rw [h.readChecked hbody, CreateBody.ofDraft_rule]
  dsimp only
  rw [hcomplaints]
  dsimp only
  rw [hrule]
  dsimp only
  rw [Store.save_eq, if_neg hid, if_neg hissues]
  rfl

/-- What a service says to a tree that is posted to be checked. -/
theorem response_posts_validate (h : request.Posts .validate body)
    (hbody : Draft.IsText body.toList draft) :
    (service.answer occasion request).1.response =
      match ValidateBody.ofDraft draft with
      | .error misread => .refused (.invalidRequest (Request.misreadReason misread))
      | .ok body => .answered (.validated body.ast.issues) := by
  rw [service.response_validate occasion h.endpoint, Outcome.validate, h.readChecked hbody]
  cases ValidateBody.ofDraft draft <;> rfl

/-- What a service says about an evaluation that is posted. -/
theorem verdict?_posts_evaluate (h : request.Posts .evaluate body)
    (hbody : Draft.IsText body.toList draft) :
    (service.answer occasion request).1.response.verdict? =
      match EvaluateBody.ofDraft draft with
      | .error misread =>
        some (.error (Refusal.invalidRequest (Request.misreadReason misread)).code)
      | .ok body =>
        if body.complaints = [] then
          some ((Outcome.verdict service.store body).mapError Refusal.code)
        else some (.error "INVALID_REQUEST") := by
  rw [service.response_evaluate occasion h.endpoint, Response.verdict?_evaluate,
    Request.readEvaluate, h.readChecked hbody]
  cases EvaluateBody.ofDraft draft with
  | error misread => rfl
  | ok body =>
    dsimp only
    cases hcomplaints : body.complaints <;> rfl

end Service

end Criteria

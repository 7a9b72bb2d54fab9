import Criteria.Proofs.Service.Course
import Criteria.Proofs.Service.Lifecycle

/-!
# What can be read in a reply

The JSON body of a reply has four members, and which they are depends on the response alone. A
reply to a request for the head only has no body.

## Main definitions

* `Criteria.Json.member?`, `Criteria.Payload.member?` — the member of an object under a name.
* `Criteria.Reply.success?`, `Criteria.Reply.code?`, `Criteria.Reply.data?`,
  `Criteria.Reply.holds?` — what a caller reads in a body.

## Main results

* `Criteria.Reply.read_answered`, `Criteria.Reply.read_refused` — what is read in a body.
* `Criteria.Service.payload_cases` — a reply has the body of its response, or none.
* `Criteria.Request.method_of_posted` — what is made, combined, evaluated or checked is posted.
-/

set_option autoImplicit false
set_option relaxedAutoImplicit false

namespace Criteria

namespace Json

/-- The member of an object under a name. -/
def member? (name : String) : Json → Option Json
  | .object members => members.lookup name
  | _ => none

/-- The truth value that a value is. -/
def bool? : Json → Option Bool
  | .bool b => some b
  | _ => none

/-- The text that a value is. -/
def string? : Json → Option String
  | .string s => some s
  | _ => none

end Json

/-- The member of a JSON body under a name. -/
def Payload.member? (name : String) : Payload → Option Json
  | .json value => value.member? name
  | _ => none

namespace Reply

variable (reply : Reply)

/-- Whether a reply says that all went well. -/
def success? : Option Bool := (reply.payload.member? "success").bind Json.bool?

/-- The code in a reply. -/
def code? : Option String := (reply.payload.member? "code").bind Json.string?

/-- What a reply brings along. -/
def data? : Option Json := reply.payload.member? "data"

/-- Whether a rule holds, as a reply tells it. -/
def holds? : Option Bool := (reply.data?.bind (Json.member? "result")).bind Json.bool?

variable {reply}

/-- What is read in a body with an answer. Its code is that of every answer. -/
theorem read_answered {answer : Answer} (h : reply.payload = .json answer.json) :
    reply.success? = some true ∧ reply.code? = some "SUCCESS" ∧ reply.data? = some answer.data := by
  unfold success? code? data?
  rw [h]
  exact ⟨rfl, rfl, rfl⟩

/-- What is read in a body with a refusal. -/
theorem read_refused {refusal : Refusal} (h : reply.payload = .json refusal.json) :
    reply.success? = some false ∧ reply.code? = some refusal.code ∧
      reply.data? = some refusal.data := by
  unfold success? code? data?
  rw [h]
  exact ⟨rfl, rfl, rfl⟩

/-- Nothing is read where there is no JSON body. -/
theorem code?_eq_none (h : ∀ value, reply.payload ≠ .json value) : reply.code? = none := by
  unfold code?
  cases hpayload : reply.payload with
  | nothing => rfl
  | plain text => rfl
  | json value => exact absurd hpayload (h value)

/-- Where a code is read there is a JSON body. -/
theorem exists_json_of_code? {code : String} (h : reply.code? = some code) :
    ∃ value, reply.payload = .json value := by
  by_contra hnone
  rw [code?_eq_none (not_exists.1 hnone)] at h
  cases h

end Reply

/-- The code that goes with a response. -/
def Response.code? : Response → Option String
  | .answered _ => some "SUCCESS"
  | .refused refusal => some refusal.code
  | _ => none

namespace Response

variable {response : Response}

/-- A bare response has no code. -/
theorem IsBare.code?_eq (h : response.IsBare) : response.code? = none := by
  cases h <;> rfl

/-- A bare response says nothing about an evaluation. -/
theorem IsBare.verdict?_eq (h : response.IsBare) : response.verdict? = none := by
  cases h <;> rfl

/-- A bare response does not have the status of an answer. -/
theorem IsBare.status_ne (h : response.IsBare) : response.status ≠ 200 := by
  cases h <;> decide

/-- Only answers have the status of one. -/
theorem exists_answered (h : response.status = 200) : ∃ answer, response = .answered answer := by
  cases response with
  | answered answer => exact ⟨answer, rfl⟩
  | refused refusal => exact absurd h refusal.status_ne
  | unknownPath => cases h
  | unknownMethod => cases h
  | illegibleId => cases h

end Response

/-- The code in a body is the code of the response. -/
theorem Reply.code?_of_payload {reply : Reply} (h : reply.payload = reply.response.payload) :
    reply.code? = reply.response.code? := by
  unfold code?
  rw [h]
  cases reply.response <;> rfl

/-- What is made, combined, evaluated or checked is posted. -/
theorem Request.method_of_posted {request : Request} {endpoint : Endpoint}
    (h : request.endpoint? = some endpoint)
    (hposted : endpoint ∈ [.create, .combine, .evaluate, .validate]) : request.method = "POST" := by
  obtain ⟨route, -, hendpoint⟩ := Option.bind_eq_some_iff.1 h
  unfold Route.endpoint? at hendpoint
  cases route <;> grind

namespace Service

variable {service : Service} {occasion : Occasion} {request : Request}

/-- A reply has the body of its response, or none. -/
theorem payload_cases (service : Service) (occasion : Occasion) (request : Request) :
    (service.exchange occasion request).reply.payload = .nothing ∨
      (service.exchange occasion request).reply.payload =
        (service.exchange occasion request).reply.response.payload := by
  by_cases hmethod : request.method = "HEAD"
  · exact .inl (if_pos hmethod)
  · exact .inr (service.payload_exchange occasion hmethod)

/-- What is posted gets a body back. -/
theorem payload_of_posted (service : Service) (occasion : Occasion) {endpoint : Endpoint}
    (h : request.endpoint? = some endpoint)
    (hposted : endpoint ∈ [.create, .combine, .evaluate, .validate]) :
    (service.exchange occasion request).reply.payload =
      (service.exchange occasion request).reply.response.payload := by
  refine service.payload_exchange occasion ?_
  rw [Request.method_of_posted h hposted]
  decide

/-- A code in a body is the code of the response. -/
theorem code?_of_reply {code : String}
    (h : (service.exchange occasion request).reply.code? = some code) :
    (service.exchange occasion request).reply.response.code? = some code := by
  rcases service.payload_cases occasion request with hnothing | hpayload
  · rw [Reply.code?, hnothing] at h
    cases h
  · rw [← Reply.code?_of_payload hpayload]
    exact h

end Service

end Criteria

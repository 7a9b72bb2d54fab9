import Criteria.Service.Basic

/-!
# What a service says at an endpoint

A request that leads to an endpoint is answered by it, over the store of the service.

## Main definitions

* `Criteria.Request.endpoint?` — where a request leads.

## Main results

* `Criteria.Service.respond_of_endpoint?` — what a service says to a request that leads to an
  endpoint, and the store after it.
* `Criteria.Service.store_answer` — the reply to a request leaves the store of its response.
-/

set_option autoImplicit false
set_option relaxedAutoImplicit false

namespace Criteria

/-- The endpoint that a request leads to. -/
def Request.endpoint? (request : Request) : Option Endpoint :=
  (Route.ofPath? request.path).bind fun route => route.endpoint? request.method

namespace Service

variable (service : Service) (occasion : Occasion) {request : Request} {endpoint : Endpoint}

/-- **What a service says at an endpoint** is what the endpoint comes to over its store. -/
theorem respond_of_endpoint? {outcome : Outcome} (h : request.endpoint? = some endpoint)
    (houtcome : Outcome.ofEndpoint service.limits service.store occasion request endpoint =
      some outcome) :
    service.respond occasion request =
      (.ofResult outcome.result, outcome.store, outcome.events) := by
  obtain ⟨route, hroute, hendpoint⟩ := Option.bind_eq_some_iff.1 h
  unfold respond
  rw [hroute]
  dsimp only
  rw [hendpoint]
  dsimp only
  rw [houtcome]

/-- The response in a reply. -/
theorem response_answer (request : Request) :
    (service.answer occasion request).1.response = (service.respond occasion request).1 := rfl

/-- The store after a reply. -/
theorem store_answer (request : Request) :
    (service.answer occasion request).2.store = (service.respond occasion request).2.1 := rfl

/-- What a service says where rules are evaluated. -/
theorem response_evaluate (h : request.endpoint? = some .evaluate) :
    (service.answer occasion request).1.response =
      .ofResult (Outcome.evaluate service.limits service.store occasion request).result := by
  rw [response_answer, respond_of_endpoint? service occasion h rfl]

/-- What a service says where trees are checked. -/
theorem response_validate (h : request.endpoint? = some .validate) :
    (service.answer occasion request).1.response =
      .ofResult (Outcome.validate service.store request).result := by
  rw [response_answer, respond_of_endpoint? service occasion h rfl]

end Service

end Criteria

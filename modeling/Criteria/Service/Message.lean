import Criteria.Json.Decode
import Criteria.Service.MediaType
import Criteria.Service.Refusal
import Criteria.Service.RequestTarget

/-!
# Requests

## Main definitions

* `Criteria.Request` — what a caller sends, `Criteria.Request.isSendable` if that is possible.
* `Criteria.Occasion` — what the world adds to it.
* `Criteria.Request.read` — the value that the body of a request is.
-/

set_option autoImplicit false
set_option relaxedAutoImplicit false

namespace Criteria

/-- What a caller sends. -/
structure Request where
  /-- What the caller wants to do. -/
  method : String
  /-- What it is about, as a rule a path and, behind a question mark, a query. -/
  target : String
  /-- What kind of text the body is. -/
  contentType : Option String
  /-- The body. -/
  body : String
  /-- The id that the caller chose. -/
  requestId : Option String

/-- What the world adds to a request. -/
structure Occasion where
  /-- An id that no rule has. -/
  ruleId : String
  /-- An id that no request has. -/
  requestId : String
  /-- The time. -/
  now : String
  /-- How many milliseconds an evaluation takes. -/
  elapsed : Nat

namespace Request

/-- The path of a request. -/
def path (request : Request) : List Char := (RequestTarget.path? request.target).getD []

/-- Whether a text can be sent in a header: it has no control characters but tabs. -/
def isHeaderText (text : String) : Bool :=
  text.toList.all fun c => (' ' ≤ c && c != '\x7f') || c == '\t'

/-- Whether a request can be sent at all. -/
def isSendable (request : Request) : Bool :=
  MediaType.isToken request.method.toList && (RequestTarget.path? request.target).isSome &&
    request.contentType.all isHeaderText && request.requestId.all isHeaderText

/-- Whether the body of a request is said to be JSON. -/
def isJson (request : Request) : Bool :=
  ((request.contentType.bind MediaType.read?).map MediaType.isJson).getD false

/-- How many bytes a body may have: two mebibytes. -/
def maxBodySize : Nat := 2 * 1024 * 1024

/-- The reason for refusing a body that is not what is wanted: the words that the reason begins
with. Behind them the caller is told what is wrong and where in the body, in the words of the
library that reads it, which are left out here. -/
def misreadReason : Misread → String
  | .malformed => "Failed to parse the request body as JSON"
  | .mismatched => "Failed to deserialize the JSON body into the target type"

/-- Reads the body of a request. -/
def read {α : Type} (reader : Draft → Except Misread α) (request : Request) : Except Refusal α :=
  if request.isJson = false then
    .error (.invalidRequest "Expected request with `Content-Type: application/json`")
  else if maxBodySize < request.body.utf8ByteSize then
    .error (.invalidRequest "Failed to buffer the request body: length limit exceeded")
  else (Json.decode reader request.body).mapError fun misread =>
    .invalidRequest (misreadReason misread)

end Request

end Criteria

import Criteria.Text.Hex

/-!
# Routes

Which path and method lead to which endpoint.

## Main definitions

* `Criteria.Percent.decode?` — a text in which bytes are written as two digits.
* `Criteria.Route` — the paths that a service knows, and `Criteria.Route.ofPath?`.
* `Criteria.Endpoint` — what a service does, and `Criteria.Route.endpoint?`.
-/

set_option autoImplicit false
set_option relaxedAutoImplicit false

namespace Criteria

namespace Percent

/-- The bytes of a text in which a percent sign and two hexadecimal digits stand for a byte. A
percent sign without them stands for itself. -/
def bytes : List Char → List UInt8
  | [] => []
  | '%' :: a :: b :: rest =>
    match hexNumber? [a, b] with
    | some n => UInt8.ofNat n :: bytes rest
    | none => String.utf8EncodeChar '%' ++ bytes (a :: b :: rest)
  | c :: rest => String.utf8EncodeChar c ++ bytes rest

/-- The text that these bytes are, if they are one. -/
def decode? (text : List Char) : Option String :=
  String.fromUTF8? (ByteArray.mk (bytes text).toArray)

end Percent

/-- The paths that a service knows. -/
inductive Route where
  /-- Where rules are made. -/
  | create
  /-- Where rules are combined. -/
  | combine
  /-- Where rules are evaluated. -/
  | evaluate
  /-- Where trees are checked. -/
  | validate
  /-- Where the service tells how it is. -/
  | health
  /-- Where a rule is, under its id as it stands in the path. -/
  | rule (segment : List Char)
  deriving DecidableEq

/-- What a service does. -/
inductive Endpoint where
  /-- Makes a rule and keeps it. -/
  | create
  /-- Combines rules. -/
  | combine
  /-- Evaluates a rule. -/
  | evaluate
  /-- Checks a tree. -/
  | validate
  /-- Tells how it is. -/
  | health
  /-- Shows a rule. -/
  | fetch (segment : List Char)
  /-- Removes a rule. -/
  | delete (segment : List Char)
  deriving DecidableEq

namespace Route

/-- What all paths start with. -/
def root : List Char := "/api/rules/".toList

/-- The route of what follows the root: a fixed word, or else an id, which is one part of a path
and not empty. -/
def ofSegment? (segment : List Char) : Option Route :=
  if segment = "create".toList then some .create
  else if segment = "combine".toList then some .combine
  else if segment = "evaluate".toList then some .evaluate
  else if segment = "validate".toList then some .validate
  else if segment = "health".toList then some .health
  else if segment = [] ∨ '/' ∈ segment then none
  else some (.rule segment)

/-- The route of a path. -/
def ofPath? (path : List Char) : Option Route :=
  if root.isPrefixOf path then ofSegment? (path.drop root.length) else none

/-- A route as it is counted: without the id of a rule. -/
def template : Route → String
  | .create => "/api/rules/create"
  | .combine => "/api/rules/combine"
  | .evaluate => "/api/rules/evaluate"
  | .validate => "/api/rules/validate"
  | .health => "/api/rules/health"
  | .rule _ => "/api/rules/\x7bid\x7d"

/-- The endpoint that a method leads to on a route. Asking for the head of a reply is asking for
the reply. -/
def endpoint? (route : Route) (method : String) : Option Endpoint :=
  let asks := method = "GET" ∨ method = "HEAD"
  match route with
  | .create => if method = "POST" then some .create else none
  | .combine => if method = "POST" then some .combine else none
  | .evaluate => if method = "POST" then some .evaluate else none
  | .validate => if method = "POST" then some .validate else none
  | .health => if asks then some .health else none
  | .rule segment =>
    if asks then some (.fetch segment)
    else if method = "DELETE" then some (.delete segment)
    else none

end Route

end Criteria

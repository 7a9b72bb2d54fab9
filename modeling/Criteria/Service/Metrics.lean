import Criteria.Tally

/-!
# Metrics

What a service counts, and how the counts are published.

## Main definitions

* `Criteria.Event` — what is counted.
* `Criteria.Metrics`, `Criteria.Metrics.record` — the counts, and one more event.
* `Criteria.Metrics.lines` — the counts as they are published.
-/

set_option autoImplicit false
set_option relaxedAutoImplicit false

namespace Criteria

/-- What requests are told apart by when they are counted. -/
structure RequestLabel where
  /-- The method. -/
  method : String
  /-- The route, or the path if there is no route. -/
  path : String
  /-- The status of the reply. -/
  status : Nat
  deriving DecidableEq

/-- What is counted. -/
inductive Event where
  /-- A text was read as a rule, with this result. -/
  | parsed (status : String)
  /-- A rule was evaluated, with this result. -/
  | evaluated (outcome : String)
  /-- The store has changed and has so many rules now. -/
  | stored (size : Nat)
  /-- A request was answered. -/
  | answered (label : RequestLabel)
  deriving DecidableEq

/-- The counts of a service. -/
structure Metrics where
  /-- The requests that were answered. -/
  requests : Tally RequestLabel
  /-- The texts that were read as rules. -/
  parses : Tally String
  /-- The rules that were evaluated. -/
  evaluations : Tally String
  /-- How many rules are stored, once there has been a change. -/
  rulesStored : Option Nat

namespace Metrics

/-- Before the first event. -/
def empty : Metrics := ⟨.empty, .empty, .empty, none⟩

/-- The counts after one more event. -/
def record (metrics : Metrics) : Event → Metrics
  | .parsed status => { metrics with parses := metrics.parses.add status }
  | .evaluated outcome => { metrics with evaluations := metrics.evaluations.add outcome }
  | .stored size => { metrics with rulesStored := some size }
  | .answered label => { metrics with requests := metrics.requests.add label }

/-- The counts after some more events. -/
def recordAll (metrics : Metrics) (events : List Event) : Metrics := events.foldl record metrics

/-! ## Publication -/

/-- A text as it stands between quotation marks: a quotation mark or a line end gets a backslash,
and a backslash gets one unless it is one of a pair or stands before a quotation mark, since the
text may have been escaped already; `held` tells whether a backslash has just been read that
could. -/
def escape : (held : Bool) → List Char → List Char
  | held, [] => if held then ['\\', '\\'] else []
  | held, c :: rest =>
    if c = '\n' then '\\' :: 'n' :: escape held rest
    else if c = '"' then '\\' :: '"' :: escape false rest
    else if c = '\\' then
      if held then '\\' :: '\\' :: escape false rest else escape true rest
    else if held then '\\' :: '\\' :: c :: escape false rest
    else c :: escape false rest

/-- A label with its value. -/
def label (name value : String) : String :=
  name ++ "=\"" ++ String.ofList (escape false value.toList) ++ "\""

/-- Labels as they stand behind a name: in braces, unless there are none. -/
def braced (labels : List (String × String)) : String :=
  let labels := labels.map fun (name, value) => label name value
  if labels = [] then "" else "\x7b" ++ ",".intercalate labels ++ "\x7d"

/-- A line: a name, labels and a number. -/
def line (name labels : String) (number : Nat) : String :=
  name ++ labels ++ " " ++ toString number

/-- The labels of a request. -/
def requestLabels (label : RequestLabel) : List (String × String) :=
  [("method", label.method), ("path", label.path), ("status", toString label.status)]

/-- Counts with one more, which is combined with that of the same labels. -/
def insertCount (combine : Nat → Nat → Nat) (labels : String) (number : Nat) :
    List (String × Nat) → List (String × Nat)
  | [] => [(labels, number)]
  | entry :: rest =>
    if entry.1 = labels then (labels, combine entry.2 number) :: rest
    else entry :: insertCount combine labels number rest

/-- The counts of requests by their labels as they are written. Two requests that are told apart can
have the same written labels, and then their counts are combined. -/
def requestCounts (metrics : Metrics) (combine : Nat → Nat → Nat) : List (String × Nat) :=
  metrics.requests.entries.foldl
    (fun counts (key, n) => insertCount combine (braced (requestLabels key)) n counts) []

/-- The lines of the counts. Whatever is timed is counted once more under the name of the
timing. -/
def lines (metrics : Metrics) : List String :=
  let timed := metrics.evaluations.total
  (metrics.requestCounts fun _ later => later).map (fun (labels, n) =>
      line "http_requests_total" labels n)
    ++ (metrics.requestCounts (· + ·)).map (fun (labels, n) =>
      line "http_request_duration_seconds_count" labels n)
    ++ metrics.parses.entries.map (fun (status, n) =>
      line "rule_parses_total" (braced [("status", status)]) n)
    ++ metrics.evaluations.entries.map (fun (outcome, n) =>
      line "rule_evaluations_total" (braced [("outcome", outcome)]) n)
    ++ (if timed = 0 then [] else [line "rule_evaluation_duration_seconds_count" "" timed])
    ++ (match metrics.rulesStored with
      | none => []
      | some size => [line "rules_stored" "" size])

end Metrics

end Criteria

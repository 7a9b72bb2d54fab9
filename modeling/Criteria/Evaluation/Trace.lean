import Criteria.Evaluation.Basic
import Criteria.Rule.Text

/-!
# Traced evaluation

Evaluation that keeps how the result came about: which conditions held, and, on request, what
happened at each node that was visited.

## Main definitions

* `Criteria.Hit` — a condition that held, and `Criteria.Visit` — what happened at a node, with
  their texts.
* `Criteria.Run` — what the evaluation of a subtree has found.
* `Criteria.Report` — what the evaluation of a rule has found.
* `Criteria.Rule.runAt`, `Criteria.Rule.report` — traced evaluation.
-/

set_option autoImplicit false
set_option relaxedAutoImplicit false

namespace Criteria

/-- A condition that held, and where it stands. -/
structure Hit where
  /-- The address of the condition. -/
  path : Path
  /-- The condition. -/
  condition : Condition
  deriving DecidableEq

/-- The text of a hit. -/
def Hit.text (hit : Hit) : String := hit.path.text ++ ": " ++ hit.condition.text

/-- What happened at a node. -/
inductive Visit where
  /-- A condition was compared. -/
  | compared (path : Path) (condition : Condition) (holds : Bool)
  /-- The left side settled the node. -/
  | settled (path : Path) (op : Connective) (left : Bool)
  /-- The right side decided the node. -/
  | decided (path : Path) (op : Connective) (holds : Bool)
  deriving DecidableEq

namespace Visit

/-- The address of the visited node. -/
def path : Visit → Path
  | .compared path _ _ => path
  | .settled path _ _ => path
  | .decided path _ _ => path

/-- The line of a visit. -/
def text : Visit → String
  | .compared path condition holds =>
    path.text ++ ": " ++ condition.text ++ " => " ++ (if holds then "MATCHED" else "NOT_MATCHED")
  | .settled path op left =>
    path.text ++ ": " ++ op.word ++ " 短路 - 左侧为 " ++ Value.boolWord left
  | .decided path op holds =>
    path.text ++ ": " ++ op.word ++ " => " ++ Value.boolWord holds

end Visit

/-- What the evaluation of a subtree has found. -/
structure Run where
  /-- Whether the subtree holds. -/
  holds : Bool
  /-- The conditions that held, from left to right. -/
  hits : List Hit
  /-- The visits, in the order in which they ended; empty unless they are asked for. -/
  visits : List Visit
  deriving DecidableEq

namespace Rule

/-- Evaluates the subtree at `path`; `tracing` asks for the visits. -/
def runAt (tracing : Bool) (record : Record) : Rule → Path → Except Fault Run
  | .condition c, path =>
    match c.evaluate (record.get? c.name) with
    | .error fault => .error fault
    | .ok holds =>
      .ok {
        holds
        hits := if holds then [⟨path, c⟩] else []
        visits := if tracing then [.compared path c holds] else [] }
  | .join op left right, path =>
    match left.runAt tracing record (path ++ [.left]) with
    | .error fault => .error fault
    | .ok l =>
      if op.settledBy l.holds then
        .ok { l with
          visits := if tracing then l.visits ++ [.settled path op l.holds] else l.visits }
      else
        match right.runAt tracing record (path ++ [.right]) with
        | .error fault => .error fault
        | .ok r =>
          .ok {
            holds := r.holds
            hits := l.hits ++ r.hits
            visits :=
              if tracing then l.visits ++ r.visits ++ [.decided path op r.holds]
              else l.visits ++ r.visits }

end Rule

/-- What the evaluation of a rule has found. -/
structure Report where
  /-- The id of the rule, empty for a rule that has none. -/
  ruleId : String
  /-- The name of the rule, empty for a rule that has none. -/
  ruleName : String
  /-- What was found. -/
  run : Run
  deriving DecidableEq

namespace Rule

/-- The report on a rule under an id and a name. -/
def reportAs (ruleId ruleName : String) (tracing : Bool) (record : Record) (rule : Rule) :
    Except Fault Report :=
  (rule.runAt tracing record []).map fun run => { ruleId, ruleName, run }

/-- The report on a rule by itself. -/
def report (tracing : Bool) (record : Record) (rule : Rule) : Except Fault Report :=
  rule.reportAs "" "" tracing record

end Rule

end Criteria

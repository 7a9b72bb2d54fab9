import Criteria.Store.Basic

/-!
# Tracing changes nothing but the trace

Traced evaluation finds what plain evaluation finds, and the visits are all that asking for them
adds.

## Main definitions

* `Criteria.Run.untraced` — what an evaluation has found, without its visits.

## Main results

* `Criteria.Rule.map_holds_runAt` — a run holds if and only if the rule does, and fails like it.
* `Criteria.Rule.runAt_false` — a run that is not traced is a traced run without its visits.
* `Criteria.Rule.reportAs_eq` — every report of a rule, from its evaluation and one traced run.
-/

set_option autoImplicit false
set_option relaxedAutoImplicit false

namespace Criteria

/-- What an evaluation has found, without its visits. -/
def Run.untraced (run : Run) : Run := { run with visits := [] }

namespace Rule

/-- **A run holds if and only if the rule does,** and it fails with the fault of the rule.

**Proof sketch.** Induction on the rule. The left side has the same result in both evaluations, so
they agree on whether the right side is evaluated at all. -/
theorem map_holds_runAt (tracing : Bool) (record : Record) (rule : Rule) (path : Path) :
    (rule.runAt tracing record path).map Run.holds = rule.evaluate record := by
  induction rule generalizing path with
  | condition c =>
    rw [runAt, evaluate]
    cases c.evaluate (record.get? c.name) <;> rfl
  | join op left right ihl ihr =>
    have hleft := ihl (path ++ [.left])
    have hright := ihr (path ++ [.right])
    rw [runAt, evaluate, ← hleft]
    cases left.runAt tracing record (path ++ [.left]) with
    | error fault => rfl
    | ok l =>
      change _ = if op.settledBy l.holds then .ok l.holds else right.evaluate record
      dsimp only
      by_cases hsettled : op.settledBy l.holds = true
      · rw [if_pos hsettled, if_pos hsettled]
        rfl
      · rw [if_neg hsettled, if_neg hsettled, ← hright]
        cases right.runAt tracing record (path ++ [.right]) <;> rfl

/-- **A run that is not traced is a traced run without its visits.** -/
theorem runAt_false (record : Record) (rule : Rule) (path : Path) :
    rule.runAt false record path = (rule.runAt true record path).map Run.untraced := by
  induction rule generalizing path with
  | condition c =>
    rw [runAt, runAt]
    cases c.evaluate (record.get? c.name) <;> rfl
  | join op left right ihl ihr =>
    rw [runAt, runAt, ihl, ihr]
    cases left.runAt true record (path ++ [.left]) with
    | error fault => rfl
    | ok l =>
      change (if op.settledBy l.holds then _ else _) = _
      dsimp only
      by_cases hsettled : op.settledBy l.holds = true
      · rw [if_pos hsettled, if_pos hsettled]
        rfl
      · rw [if_neg hsettled, if_neg hsettled]
        cases right.runAt true record (path ++ [.right]) <;> rfl

/-- Every run of a rule: it fails with the fault of the rule, or finds what a traced run finds, of
which the visits are kept if they are asked for. -/
theorem runAt_eq (record : Record) (rule : Rule) (path : Path) :
    (∃ fault, rule.evaluate record = .error fault ∧
      ∀ tracing, rule.runAt tracing record path = .error fault) ∨
    ∃ run : Run, rule.evaluate record = .ok run.holds ∧ ∀ tracing, rule.runAt tracing record path =
      .ok { run with visits := if tracing then run.visits else [] } := by
  have hholds := map_holds_runAt true record rule path
  have hfalse := runAt_false record rule path
  cases htrue : rule.runAt true record path with
  | error fault =>
    rw [htrue] at hholds hfalse
    exact .inl ⟨fault, hholds.symm, fun tracing => by cases tracing <;> assumption⟩
  | ok run =>
    rw [htrue] at hholds hfalse
    exact .inr ⟨run, hholds.symm, fun tracing => by cases tracing <;> assumption⟩

/-- **Every report of a rule:** under every id and name, traced or not, it fails with the fault of
the rule, or tells its id and its name and what one traced run finds. -/
theorem reportAs_eq (record : Record) (rule : Rule) :
    (∃ fault, rule.evaluate record = .error fault ∧
      ∀ id name tracing, rule.reportAs id name tracing record = .error fault) ∨
    ∃ run : Run, rule.evaluate record = .ok run.holds ∧
      ∀ id name tracing, rule.reportAs id name tracing record =
        .ok ⟨id, name, { run with visits := if tracing then run.visits else [] }⟩ := by
  rcases runAt_eq record rule [] with ⟨fault, heval, hrun⟩ | ⟨run, heval, hrun⟩
  · refine .inl ⟨fault, heval, fun id name tracing => ?_⟩
    rw [reportAs, hrun tracing]
    rfl
  · refine .inr ⟨run, heval, fun id name tracing => ?_⟩
    rw [reportAs, hrun tracing]
    rfl

end Rule

end Criteria

import Criteria.Evaluation.Basic
import Criteria.Proofs.Rule.Combination

/-!
# Grouping does not matter

A connective takes the results of its parts from the left and stops at the first that is not the
one it is neutral to, be it the other truth value or a fault. So a rule under one connective has the
result of its parts, in whatever way they are grouped.

## Main definitions

* `Criteria.Connective.neutral` — the result that leaves a connective undecided.
* `Criteria.Connective.settle` — the result of any number of parts under a connective.
* `Criteria.Rule.Regrouped` — rules that differ in the grouping under equal connectives.

## Main results

* `Criteria.Connective.settle_group` — a group among the parts may be opened.
* `Criteria.Rule.evaluate_joinAll` — joined rules have the result of their parts.
* `Criteria.Rule.Regrouped.evaluate_eq` — regrouping keeps results and faults.
* `Criteria.Rule.combined_means_first_decided` — what combined and regrouped rules evaluate to.
-/

set_option autoImplicit false
set_option relaxedAutoImplicit false

namespace Criteria

/-! ## Results under a connective -/

namespace Connective

/-- The truth value that leaves a connective undecided: a conjunction goes on behind what holds, a
disjunction behind what does not. -/
def neutral : Connective → Bool
  | .conj => true
  | .disj => false

/-- The result of parts under a connective: the first that is not the neutral truth value. -/
def settle (op : Connective) (results : List (Except Fault Bool)) : Except Fault Bool :=
  (results.find? (· ≠ .ok op.neutral)).getD (.ok op.neutral)

variable {op : Connective} {results inner : List (Except Fault Bool)} {result : Except Fault Bool}

/-- A truth value settles a connective if it is not neutral. -/
theorem settledBy_eq (op : Connective) (holds : Bool) :
    op.settledBy holds = decide (holds ≠ op.neutral) := by
  cases op <;> cases holds <;> rfl

/-- The first part decides, unless it is neutral. -/
theorem settle_cons (op : Connective) (result : Except Fault Bool)
    (results : List (Except Fault Bool)) :
    op.settle (result :: results) =
      if result = .ok op.neutral then op.settle results else result := by
  by_cases h : result = .ok op.neutral <;> simp [settle, h]

/-- A part by itself is its own result. -/
theorem settle_singleton (op : Connective) (result : Except Fault Bool) :
    op.settle [result] = result := by
  rw [settle_cons]
  split
  · next h => exact h.symm
  · rfl

/-- Parts behind others count if none of those decides. -/
theorem settle_append (op : Connective) (front rest : List (Except Fault Bool)) :
    op.settle (front ++ rest) = op.settle [op.settle front, op.settle rest] := by
  induction front with
  | nil =>
    have hnone : op.settle [] = .ok op.neutral := rfl
    rw [List.nil_append, settle_cons, hnone, if_pos rfl, settle_singleton]
  | cons result front ih =>
    rw [List.cons_append, settle_cons, ih, settle_cons op result front]
    by_cases h : result = .ok op.neutral
    · rw [if_pos h, if_pos h]
    · rw [if_neg h, if_neg h, settle_cons, if_neg h]

/-- **A group among the parts may be opened.** -/
theorem settle_group (op : Connective) (front inner rest : List (Except Fault Bool)) :
    op.settle (front ++ op.settle inner :: rest) = op.settle (front ++ (inner ++ rest)) := by
  have hopen : op.settle (op.settle inner :: rest) = op.settle (inner ++ rest) := by
    rw [settle_append, settle_cons, settle_cons, settle_singleton]
  rw [settle_append, hopen, ← settle_append]

/-- Parts all of which are neutral are neutral together. -/
theorem settle_of_forall (h : ∀ result ∈ results, result = .ok op.neutral) :
    op.settle results = .ok op.neutral := by
  induction results with
  | nil => rfl
  | cons result results ih =>
    obtain ⟨hresult, hresults⟩ := List.forall_mem_cons.mp h
    rw [settle_cons, if_pos hresult, ih hresults]

/-- The first part that is not neutral decides. -/
theorem settle_of_first {front : List (Except Fault Bool)} (rest : List (Except Fault Bool))
    (hfront : ∀ result ∈ front, result = .ok op.neutral) (hresult : result ≠ .ok op.neutral) :
    op.settle (front ++ result :: rest) = result := by
  rw [settle_append, settle_cons, if_pos (settle_of_forall hfront), settle_singleton, settle_cons,
    if_neg hresult]

end Connective

namespace Rule

variable {op : Connective} {rule rule' : Rule}

/-! ## Joined rules -/

/-- Two rules under a connective are its parts. -/
theorem evaluate_join (record : Record) (op : Connective) (left right : Rule) :
    (join op left right).evaluate record =
      op.settle [left.evaluate record, right.evaluate record] := by
  rw [Connective.settle_cons, Connective.settle_singleton, evaluate]
  cases left.evaluate record with
  | error fault => simp
  | ok holds => by_cases h : holds = op.neutral <;> simp [Connective.settledBy_eq, h]

/-- **Joined rules have the result of their parts.**

**Proof sketch.** Induction on the rules that follow. What has been joined so far is a group at the
front, which is opened. -/
theorem evaluate_joinAll (record : Record) (op : Connective) (first : Rule) (others : List Rule) :
    (joinAll op first others).evaluate record =
      op.settle ((first :: others).map (·.evaluate record)) := by
  induction others generalizing first with
  | nil => exact (Connective.settle_singleton op _).symm
  | cons other others ih =>
    have hgroup := Connective.settle_group op [] [first.evaluate record, other.evaluate record]
      (others.map (·.evaluate record))
    have hjoin : joinAll op first (other :: others) = joinAll op (.join op first other) others :=
      rfl
    rw [hjoin, ih, List.map_cons, evaluate_join]
    exact hgroup

/-! ## Regrouping -/

/-- Rules that differ in the grouping under equal connectives, anywhere in them. -/
inductive Regrouped : Rule → Rule → Prop where
  /-- Of three rules under one connective, the last two are grouped instead of the first two. -/
  | rotate (op : Connective) (first second third : Rule) :
      Regrouped (.join op (.join op first second) third) (.join op first (.join op second third))
  /-- Sides are regrouped. -/
  | join {left left' right right' : Rule} (op : Connective) (hleft : Regrouped left left')
      (hright : Regrouped right right') : Regrouped (.join op left right) (.join op left' right')
  /-- Nothing is regrouped. -/
  | refl (rule : Rule) : Regrouped rule rule
  /-- Regrouping is undone. -/
  | symm {rule rule' : Rule} (h : Regrouped rule rule') : Regrouped rule' rule
  /-- Regrouping goes on. -/
  | trans {rule rule' rule'' : Rule} (h : Regrouped rule rule') (h' : Regrouped rule' rule'') :
      Regrouped rule rule''

/-- Regrouping keeps the conditions and their order. -/
theorem Regrouped.conditions_eq (h : Regrouped rule rule') :
    rule.conditions = rule'.conditions := by
  induction h with
  | rotate op first second third => simp [conditions]
  | join op _ _ ihleft ihright => simp [conditions, ihleft, ihright]
  | refl rule => rfl
  | symm _ ih => exact ih.symm
  | trans _ _ ih ih' => exact ih.trans ih'

/-- **Regrouping keeps results and faults.** -/
theorem Regrouped.evaluate_eq (h : Regrouped rule rule') (record : Record) :
    rule.evaluate record = rule'.evaluate record := by
  induction h with
  | rotate op first second third =>
    have hfront := Connective.settle_group op [] [first.evaluate record, second.evaluate record]
      [third.evaluate record]
    have hback := Connective.settle_group op [first.evaluate record]
      [second.evaluate record, third.evaluate record] []
    simp only [evaluate_join]
    exact hfront.trans hback.symm
  | join op _ _ ihleft ihright => rw [evaluate_join, evaluate_join, ihleft, ihright]
  | refl rule => rfl
  | symm _ ih => exact ih.symm
  | trans _ _ ih ih' => exact ih.trans ih'

/-! ## What combined rules mean -/

/-- **A combined rule is decided by its first part that decides:** it is neutral if all parts are,
and otherwise has the result or the fault of the first from the left that is not. And rules that
differ in the grouping under equal connectives have the same conditions in the same order, and the
same result or fault on every record. -/
theorem combined_means_first_decided (op : Connective) (record : Record) :
    (∀ rules combined, combine op rules = .ok combined →
      ((∀ rule ∈ rules, rule.evaluate record = .ok op.neutral) →
        combined.evaluate record = .ok op.neutral) ∧
      ∀ front rule rest, rules = front ++ rule :: rest →
        (∀ earlier ∈ front, earlier.evaluate record = .ok op.neutral) →
        rule.evaluate record ≠ .ok op.neutral →
        combined.evaluate record = rule.evaluate record) ∧
    ∀ rule rule', Regrouped rule rule' →
      rule.conditions = rule'.conditions ∧ rule.evaluate record = rule'.evaluate record := by
  refine ⟨?_, fun rule rule' h => ⟨h.conditions_eq, h.evaluate_eq record⟩⟩
  intro rules combined hcombine
  obtain ⟨first, others, rfl, rfl, -⟩ := combine_eq_ok_iff.mp hcombine
  rw [evaluate_joinAll]
  constructor
  · intro hall
    apply Connective.settle_of_forall
    simpa using hall
  · intro front rule rest hrules hfront hrule
    rw [hrules, List.map_append, List.map_cons]
    apply Connective.settle_of_first _ _ hrule
    simpa using hfront

/-- Of a condition that holds, one on a missing field and one that fails, the second decides their
conjunction, in whatever way the three are grouped. -/
theorem combined_means_first_decided_missing :
    let record : Record := Table.ofList [("a", .bool true)]
    let holding : Rule := .condition link
    let missing : Rule := .condition ⟨"b", .eq, .bool true⟩
    let failing : Rule := .condition ⟨"a", .ne, .bool true⟩
    combine .conj [holding, missing, failing] =
        .ok (.join .conj (.join .conj holding missing) failing) ∧
      (join .conj (.join .conj holding missing) failing).evaluate record =
        .error (.missingAttribute "b") ∧
      Regrouped (.join .conj (.join .conj holding missing) failing)
        (.join .conj holding (.join .conj missing failing)) ∧
      (join .conj holding (.join .conj missing failing)).evaluate record =
        .error (.missingAttribute "b") := by
  intro record holding missing failing
  obtain ⟨hparts, hgroups⟩ := combined_means_first_decided .conj record
  have hcombine : combine .conj [holding, missing, failing] =
      .ok (.join .conj (.join .conj holding missing) failing) := rfl
  have hholding : holding.evaluate record = .ok true := rfl
  have hmissing : missing.evaluate record = .error (.missingAttribute "b") := rfl
  have hfirst := (hparts _ _ hcombine).2 [holding] missing [failing] rfl
    (by simp [hholding, Connective.neutral]) (by simp [hmissing])
  have hrotate := Regrouped.rotate .conj holding missing failing
  refine ⟨hcombine, hfirst.trans hmissing, hrotate, ?_⟩
  rw [← (hgroups _ _ hrotate).2, hfirst, hmissing]

end Rule

end Criteria

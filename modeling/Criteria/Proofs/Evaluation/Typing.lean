import Criteria.Proofs.Evaluation.Grouping
import Criteria.Proofs.Number.Order

/-!
# Well-typed rules

A condition fits a record if its comparator compares values of the kind of its literal and the
record holds its attribute with a value of that kind. Where all conditions fit, evaluation does not
fail and decides what the rule says, read as a proposition; where it fails, it fails for a condition
that does not fit.

## Main definitions

* `Criteria.Comparator.Relates` — what the comparators say.
* `Criteria.Condition.Fits`, `Criteria.Rule.Fits` — what can be evaluated without a fault.
* `Criteria.Condition.Rejects` — the fault of a condition that does not fit.
* `Criteria.Rule.Holds` — what a rule says of a record.
* `Criteria.Rule.Swapped` — rules that differ in the order of the sides of their connectives.

## Main results

* `Criteria.Value.compare_of_kind_eq` — two values of one kind are compared as the comparator says.
* `Criteria.Condition.evaluate_eq_error_iff` — the faults of a condition.
* `Criteria.Rule.evaluate_of_fits` — a rule that fits has its truth value.
* `Criteria.Rule.exists_of_evaluate_eq_error` — a rule fails with the fault of a condition.
* `Criteria.Rule.evaluate_classical` — both, and that the order of sides does not matter.
-/

set_option autoImplicit false
set_option relaxedAutoImplicit false

namespace Criteria

/-! ## What the comparators say -/

namespace Value

/-- Two values are the same: numbers if they are worth the same, so that `nan` is not the same as
anything. -/
def Same : Value → Value → Prop
  | .bool a, .bool b => a = b
  | .number a, .number b => ∃ p, a.worth? = some p ∧ b.worth? = some p
  | .string a, .string b => a = b
  | _, _ => False

/-- A value is less than another: a number is if it is worth less. -/
def Less : Value → Value → Prop
  | .number a, .number b => ∃ p q, a.worth? = some p ∧ b.worth? = some q ∧ p < q
  | _, _ => False

end Value

namespace Comparator

/-- What a comparator says of a field and a literal. -/
def Relates (field literal : Value) : Comparator → Prop
  | .eq => field.Same literal
  | .ne => ¬field.Same literal
  | .gt => literal.Less field
  | .ge => literal.Less field ∨ field.Same literal
  | .lt => field.Less literal
  | .le => field.Less literal ∨ field.Same literal

/-- Numbers are compared as the comparator says. -/
theorem holdsOfNumbers_iff (comparator : Comparator) (a b : Number) :
    comparator.holdsOfNumbers a b = true ↔ comparator.Relates (.number a) (.number b) := by
  cases comparator with
  | eq => exact Number.equals_iff
  | ne => simp [holdsOfNumbers, Relates, Value.Same, ← Number.equals_iff]
  | gt => exact Number.below_iff
  | ge => simp [holdsOfNumbers, Relates, Value.Same, Value.Less, Number.equals_iff,
      Number.below_iff]
  | lt => exact Number.below_iff
  | le => simp [holdsOfNumbers, Relates, Value.Same, Value.Less, Number.equals_iff,
      Number.below_iff]

/-- Values without an order are compared as the comparator says. -/
theorem holdsOfEquality_iff {comparator : Comparator} {kind : Kind} {field literal : Value}
    {same : Bool} (hsupports : comparator.supports kind = true) (hkind : kind ≠ .number)
    (hsame : same = true ↔ field.Same literal) :
    comparator.holdsOfEquality same = true ↔ comparator.Relates field literal := by
  cases comparator with
  | eq => exact hsame
  | ne => simp [holdsOfEquality, Relates, ← hsame]
  | gt | ge | lt | le => exact absurd (eq_of_beq hsupports) hkind

end Comparator

namespace Value

variable {field literal : Value} {comparator : Comparator}

/-- **Values of one kind are compared as the comparator says,** if it compares values of that
kind. -/
theorem compare_of_kind_eq (hsupports : comparator.supports literal.kind = true)
    (hkind : field.kind = literal.kind) : ∃ holds, field.compare comparator literal = .ok holds ∧
      (holds = true ↔ comparator.Relates field literal) := by
  unfold compare
  rw [if_pos hsupports]
  cases field with
  | bool a =>
    cases literal with
    | bool b =>
      exact ⟨_, rfl, Comparator.holdsOfEquality_iff hsupports Kind.noConfusion beq_iff_eq⟩
    | number | string => cases hkind
  | number a =>
    cases literal with
    | number b => exact ⟨_, rfl, comparator.holdsOfNumbers_iff a b⟩
    | bool | string => cases hkind
  | string a =>
    cases literal with
    | string b =>
      exact ⟨_, rfl, Comparator.holdsOfEquality_iff hsupports Kind.noConfusion beq_iff_eq⟩
    | bool | number => cases hkind

/-- Values of different kinds are not compared. -/
theorem compare_of_kind_ne (hsupports : comparator.supports literal.kind = true)
    (hkind : field.kind ≠ literal.kind) : field.compare comparator literal =
      .error (mismatch comparator literal.kind.name field.kind.name) := by
  unfold compare
  rw [if_pos hsupports]
  split
  · exact absurd rfl hkind
  · exact absurd rfl hkind
  · exact absurd rfl hkind
  · rfl

/-- A literal of a kind that the comparator does not compare is not compared. -/
theorem compare_of_not_supports (field : Value)
    (hsupports : comparator.supports literal.kind = false) : field.compare comparator literal =
      .error (mismatch comparator comparator.supportedKinds literal.kind.name) := by
  unfold compare
  rw [if_neg (by simp [hsupports])]

end Value

/-! ## Conditions that fit -/

namespace Condition

variable {record : Record} {c : Condition}

/-- A condition fits a record: its comparator compares values of the kind of its literal, and the
record holds its attribute with a value of that kind. -/
structure Fits (record : Record) (c : Condition) : Prop where
  /-- The comparator compares values of the kind of the literal. -/
  supports : c.comparator.supports c.value.kind = true
  /-- The field is of the kind of the literal. -/
  field : ∃ field, record.get? c.name = some field ∧ field.kind = c.value.kind

/-- What a condition says of a record. -/
def Holds (record : Record) (c : Condition) : Prop :=
  ∃ field, record.get? c.name = some field ∧ c.comparator.Relates field c.value

/-- A condition does not fit a record, and what is wrong. A missing attribute comes first, then a
literal that the comparator does not compare, then a field of another kind than the literal. -/
inductive Rejects (record : Record) (c : Condition) : Fault → Prop where
  /-- The record does not have the attribute. -/
  | missing (h : record.get? c.name = none) : Rejects record c (.missingAttribute c.name)
  /-- The comparator does not compare values of the kind of the literal. -/
  | unsupported {field : Value} (h : record.get? c.name = some field)
      (hsupports : c.comparator.supports c.value.kind = false) :
      Rejects record c (.typeMismatch c.comparator.symbol c.comparator.supportedKinds
        c.value.kind.name)
  /-- The field is of another kind than the literal. -/
  | unlike {field : Value} (h : record.get? c.name = some field)
      (hsupports : c.comparator.supports c.value.kind = true)
      (hkind : field.kind ≠ c.value.kind) :
      Rejects record c (.typeMismatch c.comparator.symbol c.value.kind.name field.kind.name)

/-- What does not fit is not what fits. -/
theorem Rejects.not_fits {fault : Fault} (h : c.Rejects record fault) : ¬c.Fits record := by
  rintro ⟨hfits, field, hfield, hkind⟩
  cases h with
  | missing h => simp [h] at hfield
  | unsupported h hsupports => simp [hsupports] at hfits
  | unlike h hsupports hne =>
    obtain rfl := Option.some.inj (h.symm.trans hfield)
    exact hne hkind

/-- A condition that fits has a truth value. -/
theorem evaluate_of_fits (h : c.Fits record) :
    ∃ holds, c.evaluate (record.get? c.name) = .ok holds ∧ (holds = true ↔ c.Holds record) := by
  obtain ⟨hsupports, field, hfield, hkind⟩ := h
  obtain ⟨holds, hcompare, hiff⟩ := Value.compare_of_kind_eq hsupports hkind
  refine ⟨holds, by rw [hfield]; exact hcompare, hiff.trans ?_⟩
  simp [Holds, hfield]

/-- **A condition fails if it does not fit,** with the fault that says what is wrong. -/
theorem evaluate_eq_error_iff {fault : Fault} :
    c.evaluate (record.get? c.name) = .error fault ↔ c.Rejects record fault := by
  constructor
  · intro h
    cases hfield : record.get? c.name with
    | none =>
      rw [hfield] at h
      obtain rfl := Except.error.inj h
      exact .missing hfield
    | some field =>
      rw [hfield] at h
      change field.compare c.comparator c.value = .error fault at h
      cases hsupports : c.comparator.supports c.value.kind with
      | false =>
        rw [Value.compare_of_not_supports field hsupports] at h
        obtain rfl := Except.error.inj h
        exact .unsupported hfield hsupports
      | true =>
        by_cases hkind : field.kind = c.value.kind
        · obtain ⟨holds, hcompare, -⟩ := Value.compare_of_kind_eq hsupports hkind
          rw [hcompare] at h
          cases h
        · rw [Value.compare_of_kind_ne hsupports hkind] at h
          obtain rfl := Except.error.inj h
          exact .unlike hfield hsupports hkind
  · intro h
    cases h with
    | missing hfield => rw [hfield]; rfl
    | unsupported hfield hsupports =>
      rw [hfield]
      exact Value.compare_of_not_supports _ hsupports
    | unlike hfield hsupports hkind =>
      rw [hfield]
      exact Value.compare_of_kind_ne hsupports hkind

end Condition

/-! ## Rules that fit -/

namespace Rule

variable {record : Record} {rule rule' : Rule}

/-- A rule fits a record if its conditions do. -/
def Fits (record : Record) (rule : Rule) : Prop := ∀ c ∈ rule.conditions, c.Fits record

/-- What a rule says of a record. -/
def Holds (record : Record) : Rule → Prop
  | .condition c => c.Holds record
  | .join .conj left right => left.Holds record ∧ right.Holds record
  | .join .disj left right => left.Holds record ∨ right.Holds record

/-- Rules that differ in the order of the sides of their connectives, anywhere in them. -/
inductive Swapped : Rule → Rule → Prop where
  /-- The sides of a connective change places. -/
  | swap (op : Connective) (left right : Rule) : Swapped (.join op left right) (.join op right left)
  /-- Sides change places within both sides. -/
  | join {left left' right right' : Rule} (op : Connective) (hleft : Swapped left left')
      (hright : Swapped right right') : Swapped (.join op left right) (.join op left' right')
  /-- Nothing changes places. -/
  | refl (rule : Rule) : Swapped rule rule
  /-- One change after another. -/
  | trans {rule rule' rule'' : Rule} (h : Swapped rule rule') (h' : Swapped rule' rule'') :
      Swapped rule rule''

/-- A rule under a connective fits if both sides do. -/
theorem fits_join {op : Connective} {left right : Rule} :
    (join op left right).Fits record ↔ left.Fits record ∧ right.Fits record := by
  simp only [Fits, conditions, List.mem_append, or_imp, forall_and]

/-- **A rule that fits has its truth value.**

**Proof sketch.** Induction on the rule. Neither side fails, and a side that is not evaluated would
not change the result. -/
theorem evaluate_of_fits (h : rule.Fits record) :
    ∃ holds, rule.evaluate record = .ok holds ∧ (holds = true ↔ rule.Holds record) := by
  induction rule with
  | condition c => exact c.evaluate_of_fits (h c (List.mem_singleton_self c))
  | join op left right ihl ihr =>
    obtain ⟨hleft, hright⟩ := fits_join.mp h
    obtain ⟨l, hl, hlholds⟩ := ihl hleft
    obtain ⟨r, hr, hrholds⟩ := ihr hright
    rw [evaluate, hl]
    dsimp only
    cases op with
    | conj =>
      rw [Holds, ← hlholds, ← hrholds]
      cases l with
      | false => exact ⟨false, rfl, by simp⟩
      | true => exact ⟨r, hr, by simp⟩
    | disj =>
      rw [Holds, ← hlholds, ← hrholds]
      cases l with
      | false => exact ⟨r, hr, by simp⟩
      | true => exact ⟨true, rfl, by simp⟩

/-- Sides that change places have the same conditions. -/
theorem Swapped.perm_conditions (h : Swapped rule rule') :
    rule.conditions.Perm rule'.conditions := by
  induction h with
  | swap op left right => exact List.perm_append_comm
  | join op _ _ ihl ihr => exact ihl.append ihr
  | refl rule => exact List.Perm.refl _
  | trans _ _ ih ih' => exact ih.trans ih'

/-- Sides that change places do not change what a rule says. -/
theorem Swapped.holds_iff (h : Swapped rule rule') : rule.Holds record ↔ rule'.Holds record := by
  induction h with
  | swap op left right =>
    cases op with
    | conj => exact and_comm
    | disj => exact or_comm
  | join op _ _ ihl ihr =>
    cases op with
    | conj => exact and_congr ihl ihr
    | disj => exact or_congr ihl ihr
  | refl rule => exact Iff.rfl
  | trans _ _ ih ih' => exact ih.trans ih'

/-- Sides that change places do not change the result of a rule that fits. -/
theorem Swapped.evaluate_eq (h : Swapped rule rule') (hfits : rule.Fits record) :
    rule'.evaluate record = rule.evaluate record := by
  have hfits' : rule'.Fits record := fun c hc => hfits c (h.perm_conditions.mem_iff.mpr hc)
  obtain ⟨holds, heval, hiff⟩ := evaluate_of_fits hfits
  obtain ⟨holds', heval', hiff'⟩ := evaluate_of_fits hfits'
  have hsame : holds' = holds :=
    Bool.eq_iff_iff.mpr ((hiff'.trans h.holds_iff.symm).trans hiff.symm)
  rw [heval', heval, hsame]

/-- **A rule fails with the fault of one of its conditions.** -/
theorem exists_of_evaluate_eq_error {fault : Fault} (h : rule.evaluate record = .error fault) :
    ∃ c ∈ rule.conditions, c.Rejects record fault := by
  induction rule with
  | condition c => exact ⟨c, List.mem_singleton_self c, Condition.evaluate_eq_error_iff.mp h⟩
  | join op left right ihl ihr =>
    rw [evaluate] at h
    cases hl : left.evaluate record with
    | error fault' =>
      rw [hl] at h
      obtain rfl := Except.error.inj h
      obtain ⟨c, hc, hrejects⟩ := ihl hl
      exact ⟨c, List.mem_append_left _ hc, hrejects⟩
    | ok l =>
      rw [hl] at h
      dsimp only at h
      split at h
      · cases h
      · obtain ⟨c, hc, hrejects⟩ := ihr h
        exact ⟨c, List.mem_append_right _ hc, hrejects⟩

/-- **A rule decides what it says.** If all its conditions fit a record, it does not fail, its
result is whether what it says is true of the record, and so it is in whatever order the sides of
its connectives stand. And whenever a rule fails, it does so with the fault of one of its
conditions, which does not fit: that the attribute is missing if it is, and otherwise that the kinds
do not match. -/
theorem evaluate_classical (rule : Rule) (record : Record) :
    (rule.Fits record → ∃ holds, rule.evaluate record = .ok holds ∧
      (holds = true ↔ rule.Holds record) ∧
      ∀ rule', Swapped rule rule' → rule'.evaluate record = .ok holds) ∧
    ∀ fault, rule.evaluate record = .error fault →
      ∃ c ∈ rule.conditions, ¬c.Fits record ∧ c.Rejects record fault := by
  constructor
  · intro hfits
    obtain ⟨holds, heval, hiff⟩ := evaluate_of_fits hfits
    refine ⟨holds, heval, hiff, fun rule' hswapped => ?_⟩
    rw [hswapped.evaluate_eq hfits, heval]
  · intro fault h
    obtain ⟨c, hc, hrejects⟩ := exists_of_evaluate_eq_error h
    exact ⟨c, hc, hrejects.not_fits, hrejects⟩

/-- A rule that fits, with its sides in either order, and a comparator that does not compare truth
values. -/
theorem evaluate_classical_swapped :
    let record : Record := Table.ofList [("a", .bool true), ("n", .number .zero)]
    let least : Condition := ⟨"n", .ge, .number .zero⟩
    let beyond : Condition := ⟨"a", .gt, .bool true⟩
    let rule : Rule := .join .conj (.condition link) (.condition least)
    rule.Fits record ∧ rule.Holds record ∧
      (join .conj (.condition least) (.condition link)).evaluate record = .ok true ∧
      (condition beyond).evaluate record = .error (.typeMismatch ">" "number" "boolean") ∧
      ¬beyond.Fits record := by
  intro record least beyond rule
  have hfits : rule.Fits record := by
    intro c hc
    rcases List.mem_cons.mp hc with rfl | hc
    · exact ⟨rfl, _, rfl, rfl⟩
    · obtain rfl := List.mem_singleton.mp hc
      exact ⟨rfl, _, rfl, rfl⟩
  have heval : rule.evaluate record = .ok true := rfl
  obtain ⟨holds, heval', hiff, hswapped⟩ := (evaluate_classical rule record).1 hfits
  obtain rfl := Except.ok.inj (heval'.symm.trans heval)
  have hfails : (condition beyond).evaluate record =
      .error (.typeMismatch ">" "number" "boolean") := rfl
  obtain ⟨c, hc, hnot, -⟩ := (evaluate_classical (.condition beyond) record).2 _ hfails
  obtain rfl := List.mem_singleton.mp hc
  exact ⟨hfits, hiff.mp rfl, hswapped _ (.swap _ _ _), hfails, hnot⟩

end Rule

end Criteria

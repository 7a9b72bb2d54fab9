import Criteria.Proofs.Evaluation.Typing
import Criteria.Proofs.Evaluation.Untraced
import Criteria.Proofs.Store.Invariant

/-!
# What an evaluation reads

Evaluation, traced or not, reads nothing of a record but the attributes of the rule. Where two
records agree on these, everything it finds is the same; and what it finds on a record stays so when
fields are added.

## Main definitions

* `Criteria.Value.Alike` — values that no comparison tells apart.
* `Criteria.Record.AgreesOn` — records that agree on some attributes.
* `Criteria.Record.ExtendedOn` — a record of which another has the fields, among some attributes.

## Main results

* `Criteria.Value.compare_of_alike` — what is alike is compared alike.
* `Criteria.Rule.runAt_congr` — equal outcomes of the conditions make equal runs.
* `Criteria.Rule.runAt_of_forall_ok` — outcomes that stay keep a run that does not fail.
* `Criteria.Rule.reads_its_attributes` — what an evaluation reads.
-/

set_option autoImplicit false
set_option relaxedAutoImplicit false

namespace Criteria

/-! ## Values that are compared alike -/

/-- Numbers that are equal are at the same place. -/
theorem Number.position?_eq_of_equals {a b : Number} (h : a.equals b = true) :
    a.position? = b.position? := by
  unfold equals at h
  split at h
  · next hp hq => rw [hp, hq, eq_of_beq h]
  · cases h

namespace Value

variable {field field' : Value}

/-- Values are alike if they are the same or numerically equal, like both zeros. -/
def Alike (field field' : Value) : Prop := field = field' ∨ field.equals field' = true

/-- **Nothing tells values apart that are alike.** -/
theorem compare_of_alike (h : field.Alike field') (comparator : Comparator) (literal : Value) :
    field.compare comparator literal = field'.compare comparator literal := by
  rcases h with rfl | h
  · rfl
  · cases field with
    | bool a =>
      cases field' with
      | bool b => rw [eq_of_beq h]
      | number | string => cases h
    | string a =>
      cases field' with
      | string b => rw [eq_of_beq h]
      | bool | number => cases h
    | number a =>
      cases field' with
      | number b =>
        have hplace : a.position? = b.position? := Number.position?_eq_of_equals h
        have hholds : ∀ n, comparator.holdsOfNumbers a n = comparator.holdsOfNumbers b n := by
          intro n
          cases comparator <;>
            simp only [Comparator.holdsOfNumbers, Number.equals, Number.below, hplace]
        cases literal with
        | number n => simp only [compare, hholds]
        | bool | string => rfl
      | bool | string => cases h

end Value

/-! ## Records -/

namespace Record

/-- Two records agree on attributes: each is missing in both or has values that are alike. -/
def AgreesOn (names : List String) (record record' : Record) : Prop :=
  ∀ name ∈ names, Option.Rel Value.Alike (record.get? name) (record'.get? name)

/-- Among some attributes, another record has the fields of a record, with values that are alike,
and perhaps more. -/
def ExtendedOn (names : List String) (record record' : Record) : Prop :=
  ∀ name ∈ names, ∀ field, record.get? name = some field →
    ∃ field', record'.get? name = some field' ∧ field.Alike field'

end Record

/-! ## Outcomes of the conditions -/

namespace Condition

variable {record record' : Record} {c : Condition}

/-- A condition has one outcome on fields that are alike, and on fields that are missing. -/
theorem evaluate_of_rel {field field' : Option Value} (h : Option.Rel Value.Alike field field') :
    c.evaluate field = c.evaluate field' := by
  cases h with
  | none => rfl
  | some halike => exact Value.compare_of_alike halike c.comparator c.value

/-- Where a record does not lose its attribute, a condition keeps its truth value. -/
theorem evaluate_of_extended {holds : Bool}
    (h : ∀ field, record.get? c.name = some field →
      ∃ field', record'.get? c.name = some field' ∧ field.Alike field')
    (hc : c.evaluate (record.get? c.name) = .ok holds) :
    c.evaluate (record'.get? c.name) = .ok holds := by
  cases hfield : record.get? c.name with
  | none =>
    rw [hfield] at hc
    cases hc
  | some field =>
    obtain ⟨field', hfield', halike⟩ := h field hfield
    rw [hfield] at hc
    rw [hfield']
    exact (Value.compare_of_alike halike c.comparator c.value).symm.trans hc

end Condition

namespace Rule

variable {record record' : Record} {rule : Rule}

/-- Equal outcomes of the conditions make equal runs. -/
theorem runAt_congr (tracing : Bool) (path : Path)
    (h : ∀ c ∈ rule.conditions,
      c.evaluate (record.get? c.name) = c.evaluate (record'.get? c.name)) :
    rule.runAt tracing record path = rule.runAt tracing record' path := by
  induction rule generalizing path with
  | condition c => rw [runAt, runAt, h c (List.mem_singleton_self c)]
  | join op left right ihl ihr =>
    rw [runAt, runAt, ihl _ fun c hc => h c (List.mem_append_left _ hc)]
    simp only [ihr _ fun c hc => h c (List.mem_append_right _ hc)]

/-- **Truth values of the conditions that stay keep a run that does not fail.**

**Proof sketch.** Induction on the rule. The left side keeps its result, so it settles the node on
the other record as well, and a side that is passed over stays so. -/
theorem runAt_of_forall_ok {tracing : Bool} {path : Path} {run : Run}
    (h : ∀ c ∈ rule.conditions, ∀ holds, c.evaluate (record.get? c.name) = .ok holds →
      c.evaluate (record'.get? c.name) = .ok holds)
    (hrun : rule.runAt tracing record path = .ok run) :
    rule.runAt tracing record' path = .ok run := by
  induction rule generalizing path run with
  | condition c =>
    rw [runAt] at hrun ⊢
    cases hc : c.evaluate (record.get? c.name) with
    | error fault =>
      rw [hc] at hrun
      cases hrun
    | ok holds =>
      rw [hc] at hrun
      rw [h c (List.mem_singleton_self c) holds hc]
      exact hrun
  | join op left right ihl ihr =>
    rw [runAt] at hrun ⊢
    cases hleft : left.runAt tracing record (path ++ [.left]) with
    | error fault =>
      rw [hleft] at hrun
      cases hrun
    | ok l =>
      rw [hleft] at hrun
      rw [ihl (fun c hc => h c (List.mem_append_left _ hc)) hleft]
      dsimp only at hrun ⊢
      by_cases hsettled : op.settledBy l.holds = true
      · rw [if_pos hsettled] at hrun ⊢
        exact hrun
      · rw [if_neg hsettled] at hrun ⊢
        cases hright : right.runAt tracing record (path ++ [.right]) with
        | error fault =>
          rw [hright] at hrun
          cases hrun
        | ok r =>
          rw [hright] at hrun
          rw [ihr (fun c hc => h c (List.mem_append_right _ hc)) hright]
          exact hrun

/-- **An evaluation reads nothing but the attributes of the rule.** Where two records agree on
them, the rule has the same result or fault, and every report on it, traced or not, finds the same.
Where a record has the fields of another among them, and perhaps more, a rule that does not fail on
the other has the same result and the same reports. And the attribute that a rule is said to miss is
one of its attributes and not in the record. -/
theorem reads_its_attributes (rule : Rule) (record record' : Record) :
    (record.AgreesOn rule.attributes record' →
      rule.evaluate record = rule.evaluate record' ∧ ∀ id name tracing,
        rule.reportAs id name tracing record = rule.reportAs id name tracing record') ∧
    (record.ExtendedOn rule.attributes record' →
      (∀ holds, rule.evaluate record = .ok holds → rule.evaluate record' = .ok holds) ∧
      ∀ id name tracing report, rule.reportAs id name tracing record = .ok report →
        rule.reportAs id name tracing record' = .ok report) ∧
    ∀ name, rule.evaluate record = .error (.missingAttribute name) →
      name ∈ rule.attributes ∧ record.get? name = none := by
  have hmem : ∀ c ∈ rule.conditions, c.name ∈ rule.attributes :=
    fun c hc => mem_attributes_iff.mpr ⟨c, hc, rfl⟩
  refine ⟨fun hagree => ?_, fun hextended => ?_, fun name hmissing => ?_⟩
  · have houtcomes : ∀ c ∈ rule.conditions,
        c.evaluate (record.get? c.name) = c.evaluate (record'.get? c.name) :=
      fun c hc => Condition.evaluate_of_rel (hagree c.name (hmem c hc))
    have hruns := fun tracing => runAt_congr tracing [] houtcomes
    refine ⟨?_, fun id name tracing => ?_⟩
    · rw [← map_holds_runAt true record rule [], hruns, map_holds_runAt]
    · rw [reportAs, reportAs, hruns]
  · have houtcomes : ∀ c ∈ rule.conditions, ∀ holds,
        c.evaluate (record.get? c.name) = .ok holds →
          c.evaluate (record'.get? c.name) = .ok holds :=
      fun c hc holds => Condition.evaluate_of_extended (hextended c.name (hmem c hc))
    rcases runAt_eq record rule [] with ⟨fault, heval, hruns⟩ | ⟨run, -, hruns⟩
    · refine ⟨fun holds h => ?_, fun id name tracing report h => ?_⟩
      · rw [heval] at h
        cases h
      · rw [reportAs, hruns] at h
        cases h
    · have hkept : ∀ tracing, rule.runAt tracing record' [] = rule.runAt tracing record [] :=
        fun tracing => (runAt_of_forall_ok houtcomes (hruns tracing)).trans (hruns tracing).symm
      refine ⟨fun holds h => ?_, fun id name tracing report h => ?_⟩
      · rw [← map_holds_runAt true record' rule [], hkept, map_holds_runAt, h]
      · rw [reportAs, hkept, ← reportAs, h]
  · obtain ⟨c, hc, hrejects⟩ := exists_of_evaluate_eq_error hmissing
    cases hrejects with
    | missing h => exact ⟨hmem c hc, h⟩

/-- A disjunction that its left side settles does not read the attribute on its right, which one
record lacks, a second has, and a condition by itself misses. -/
theorem reads_its_attributes_settled :
    let record : Record := Table.ofList [("a", .bool true)]
    let extended : Record := Table.ofList [("b", .string "x"), ("a", .bool true)]
    let other : Record := Table.ofList [("c", .bool false), ("a", .bool true)]
    let missing : Rule := .condition ⟨"b", .eq, .bool true⟩
    let rule : Rule := .join .disj (.condition link) missing
    record.AgreesOn rule.attributes other ∧ rule.evaluate other = .ok true ∧
      record.ExtendedOn rule.attributes extended ∧ rule.evaluate extended = .ok true ∧
      missing.evaluate record = .error (.missingAttribute "b") ∧ "b" ∈ missing.attributes := by
  intro record extended other missing rule
  have hattributes : rule.attributes = ["a", "b"] := by decide
  have hagree : record.AgreesOn rule.attributes other := by
    intro name hname
    rw [hattributes] at hname
    rcases List.mem_cons.mp hname with rfl | hname
    · exact .some (.inl rfl)
    · obtain rfl := List.mem_singleton.mp hname
      exact .none
  have hextended : record.ExtendedOn rule.attributes extended := by
    intro name hname field hfield
    rw [hattributes] at hname
    rcases List.mem_cons.mp hname with rfl | hname
    · exact ⟨_, rfl, .inl (Option.some.inj hfield.symm)⟩
    · obtain rfl := List.mem_singleton.mp hname
      cases hfield
  have heval : rule.evaluate record = .ok true := rfl
  have hmissing : missing.evaluate record = .error (.missingAttribute "b") := rfl
  obtain ⟨hother, -, -⟩ := reads_its_attributes rule record other
  obtain ⟨-, hmore, -⟩ := reads_its_attributes rule record extended
  obtain ⟨-, -, hnames⟩ := reads_its_attributes missing record record
  exact ⟨hagree, (hother hagree).1.symm.trans heval, hextended, (hmore hextended).1 _ heval,
    hmissing, (hnames _ hmissing).1⟩

end Rule

end Criteria

import Criteria.Proofs.Rule.Spelling

/-!
# Printing and reading are inverse on valid rules

Rules are compared up to numeric equality of their literals. A valid rule equals itself, a rule
that equals a valid one is valid, and the valid rules are those that are read from their own text.

## Main results

* `Criteria.Rule.equals_self` — a clean rule equals itself.
* `Criteria.Rule.issues_of_equals` — validity is kept by equality.
* `Criteria.Rule.issues_eq_nil_iff_ofText_text` — exactly the valid rules are read from their text.
-/

set_option autoImplicit false
set_option relaxedAutoImplicit false

namespace Criteria

/-! ## Equal values -/

/-- Equal numbers are both finite or both not. -/
theorem Number.isFinite_of_equals {a b : Number} (h : a.equals b = true)
    (ha : a.isFinite = true) : b.isFinite = true := by
  cases a with
  | nan => cases h
  | signed negative m =>
    cases b with
    | nan => cases negative <;> cases h
    | signed negative' m' =>
      have hrank : m.rank = m'.rank := by
        cases negative <;> cases negative' <;> simp [equals, position?] at h <;> omega
      obtain rfl : m = m' := by
        cases m
        cases m'
        simpa using hrank
      exact ha

/-- A finite number equals itself. -/
theorem Value.equals_self {value : Value} (h : value.Finite) :
    value.equals value = true := by
  cases value with
  | bool b => exact beq_self_eq_true b
  | number n =>
    refine (Number.equals_self_iff n).2 ?_
    rintro rfl
    cases h .nan rfl
  | string s => exact beq_self_eq_true s

/-- What equals a finite number is a finite number. -/
theorem Value.finite_of_equals {value value' : Value} (h : value.equals value' = true)
    (hvalue : value.Finite) : value'.Finite := by
  rintro n rfl
  cases value with
  | bool b => cases h
  | number m => exact Number.isFinite_of_equals h (hvalue m rfl)
  | string s => cases h

/-! ## Equal rules -/

/-- A condition without defects equals itself. -/
theorem Condition.equals_self {c : Condition} (h : c.defects = []) : c.equals c = true := by
  obtain ⟨-, hvalue⟩ := defects_eq_nil_iff.1 h
  simp [equals, Value.equals_self hvalue]

/-- What equals a condition without defects has none. -/
theorem Condition.defects_of_equals {c c' : Condition} (h : c.equals c' = true)
    (hc : c.defects = []) : c'.defects = [] := by
  simp only [equals, Bool.and_eq_true, beq_iff_eq] at h
  obtain ⟨⟨hname, -⟩, hvalue⟩ := h
  obtain ⟨hisName, hfinite⟩ := defects_eq_nil_iff.1 hc
  rw [hname] at hisName
  exact defects_eq_nil_iff.2 ⟨hisName, Value.finite_of_equals hvalue hfinite⟩

namespace Rule

variable {rule rule' : Rule}

/-- **A clean rule equals itself.** -/
theorem equals_self (h : rule.Clean) : rule.equals rule = true := by
  induction rule with
  | condition c => exact Condition.equals_self (clean_condition_iff.1 h)
  | join op left right ihl ihr =>
    obtain ⟨hleft, hright⟩ := clean_join_iff.1 h
    simp [equals, ihl hleft, ihr hright]

/-- What equals a join is a join under the same connective, of equal sides. -/
theorem exists_of_join_equals {op : Connective} {left right : Rule}
    (h : (join op left right).equals rule' = true) : ∃ left' right',
    rule' = .join op left' right' ∧ left.equals left' = true ∧ right.equals right' = true := by
  cases rule' with
  | condition c => cases h
  | join op' left' right' =>
    simp only [equals, Bool.and_eq_true, beq_iff_eq] at h
    obtain ⟨⟨rfl, hleft⟩, hright⟩ := h
    exact ⟨left', right', rfl, hleft, hright⟩

/-- What equals a condition is a condition that equals it. -/
theorem exists_of_condition_equals {c : Condition} (h : (condition c).equals rule' = true) :
    ∃ c', rule' = .condition c' ∧ c.equals c' = true := by
  cases rule' with
  | condition c' => exact ⟨c', rfl, h⟩
  | join op left right => cases h

/-- Equal rules bind equally tightly. -/
theorem phrase_of_equals (h : rule.equals rule' = true) : rule.phrase = rule'.phrase := by
  cases rule with
  | condition c =>
    obtain ⟨c', rfl, -⟩ := exists_of_condition_equals h
    rfl
  | join op left right =>
    obtain ⟨left', right', rfl, -, -⟩ := exists_of_join_equals h
    rfl

/-- The texts of equal rules nest brackets equally deep. -/
theorem bracketDepth_of_equals (h : rule.equals rule' = true) :
    rule.bracketDepth = rule'.bracketDepth := by
  induction rule generalizing rule' with
  | condition c =>
    obtain ⟨c', rfl, -⟩ := exists_of_condition_equals h
    rfl
  | join op left right ihl ihr =>
    obtain ⟨left', right', rfl, hleft, hright⟩ := exists_of_join_equals h
    rw [bracketDepth_join, bracketDepth_join, depthAs, depthAs, depthAs, depthAs, isLoose, isLoose,
      isLoose, isLoose, ihl hleft, ihr hright, phrase_of_equals hleft, phrase_of_equals hright]

/-- What equals a clean rule is clean. -/
theorem clean_of_equals (h : rule.equals rule' = true)
    (hrule : rule.Clean) : rule'.Clean := by
  induction rule generalizing rule' with
  | condition c =>
    obtain ⟨c', rfl, hequals⟩ := exists_of_condition_equals h
    rw [clean_condition_iff] at hrule ⊢
    exact Condition.defects_of_equals hequals hrule
  | join op left right ihl ihr =>
    obtain ⟨left', right', rfl, hleft, hright⟩ := exists_of_join_equals h
    rw [clean_join_iff] at hrule ⊢
    exact ⟨ihl hleft hrule.1, ihr hright hrule.2⟩

/-- **Validity is kept by equality.** -/
theorem issues_of_equals (h : rule.equals rule' = true) (hrule : rule.issues = []) :
    rule'.issues = [] := by
  obtain ⟨hclean, hdepth⟩ := issues_eq_nil_iff.1 hrule
  rw [bracketDepth_of_equals h] at hdepth
  exact issues_eq_nil_iff.2 ⟨clean_of_equals h hclean, hdepth⟩

/-! ## The round trip -/

/-- **Exactly the valid rules are read from their text:** the text of a rule is read as a rule that
equals it if and only if it has no issues.

**Proof sketch.** The text of a valid rule is read as the rule itself (`ofText_text`), which equals
itself. Whatever is read is valid (`issues_of_ofText`), and so is what equals it. -/
theorem issues_eq_nil_iff_ofText_text (rule : Rule) :
    rule.issues = [] ↔ ∃ rule', ofText rule.text = .ok rule' ∧ rule'.equals rule = true := by
  constructor
  · intro h
    exact ⟨rule, ofText_text h, equals_self (issues_eq_nil_iff.1 h).1⟩
  · rintro ⟨rule', hread, hequals⟩
    exact issues_of_equals hequals (issues_of_ofText hread)

end Rule

end Criteria

import Criteria.Outline.Validation
import Criteria.Proofs.Rule.RoundTrip

/-!
# Outlines that stand for rules

The checks of an outline look at its nodes and at the tokens of its conditions, and decoding reads
every condition as a rule. Here the two are shown to accept the same outlines.

## Main results

* `Criteria.Outline.decodeCondition_of_operandDefect?` — a text without defects is a condition.
* `Criteria.Outline.decode_of_nodeIssues` — an outline whose nodes have no issues stands for a rule.
* `Criteria.Outline.toRule_ofRule` — a valid rule is read back from its outline.
* `Criteria.Outline.toRule_iff_valid` — the rules of outlines are the valid ones, and every other
  outline is refused with its issues.
-/

set_option autoImplicit false
set_option relaxedAutoImplicit false

namespace Criteria.Outline

/-! ## Conditions -/

/-- A text without defects is a condition without defects. -/
theorem decodeCondition_of_operandDefect? {text : String} (h : operandDefect? text = none) :
    ∃ c, decodeCondition text = .ok (.condition c) ∧ c.defects = [] := by
  unfold operandDefect? at h
  split at h
  case h_1 => cases h
  case h_2 tokens _ =>
    split at h
    case h_1 => cases h
    case h_2 =>
      split at h
      case h_1 c hread =>
        refine ⟨c, ?_, ?_⟩
        · unfold decodeCondition
          rw [hread]
          rfl
        · have hissues := Rule.issues_of_ofText hread
          exact Rule.clean_condition_iff.1 (Rule.issues_eq_nil_iff.1 hissues).1
      case h_2 => cases h
      case h_3 => cases h

/-- The text of a condition without defects is read as the condition. -/
theorem ofText_text {c : Condition} (h : c.defects = []) :
    Rule.ofText c.text = .ok (.condition c) := by
  have hissues : (Rule.condition c).issues = [] :=
    Rule.issues_eq_nil_iff.2 ⟨Rule.clean_condition_iff.2 h, Nat.zero_le _⟩
  have hread := Rule.ofText_text hissues
  rwa [Rule.text] at hread

/-- The text of a condition without defects has none. -/
theorem operandDefect?_text {c : Condition} (h : c.defects = []) :
    operandDefect? c.text = none := by
  obtain ⟨name, symbol, right, hscan, hname, -, hsymbol, -⟩ := Condition.scan_text h
  have hopening : openingDefect? [name, symbol, right] = none := by
    simp [openingDefect?, hname, hsymbol]
  unfold operandDefect?
  rw [hscan]
  dsimp only
  rw [hopening]
  dsimp only
  rw [ofText_text h]

/-! ## Nodes -/

/-- An operand has no defects if it has no children, and a value without defects. -/
theorem operandDefects_eq_nil_iff {value : Option String} {hasChildren : Bool} :
    operandDefects value hasChildren = [] ↔
      hasChildren = false ∧ ∃ text, value = some text ∧ operandDefect? text = none := by
  unfold operandDefects
  rw [List.append_eq_nil_iff]
  refine and_congr (by cases hasChildren <;> simp) ?_
  cases value with
  | none => simp
  | some text => simp

/-- An operator has no defects if its value is the word for a connective. -/
theorem operatorDefects_eq_nil_iff {value : Option String} :
    operatorDefects value = [] ↔ ∃ op : Connective, value = some op.word := by
  cases value with
  | none => simp [operatorDefects]
  | some word =>
    unfold operatorDefects
    simp only [ite_eq_left_iff, List.cons_ne_nil, imp_false, not_not, Option.isSome_iff_exists,
      Connective.ofWord?_eq_some_iff, Option.some.injEq]

/-- The issues of the child on a side, or the issue that it is missing. -/
def childIssues (path : Path) (side : Side) : Option Outline → List Issue
  | some child => child.nodeIssues (path ++ [side])
  | none => [⟨path.text, .missingChild side⟩]

/-- A child has no issues if it is there and its nodes have none. -/
theorem childIssues_eq_nil_iff {path : Path} {side : Side} {child? : Option Outline} :
    childIssues path side child? = [] ↔
      ∃ child, child? = some child ∧ child.nodeIssues (path ++ [side]) = [] := by
  cases child? <;> simp [childIssues]

/-- The issues of an outline, node and children apart. -/
theorem nodeIssues_eq (type : String) (value : Option String) (left right : Option Outline)
    (path : Path) : (⟨type, value, left, right⟩ : Outline).nodeIssues path =
      if type = operatorType then
        (operatorDefects value).map (⟨path.text, ·⟩)
          ++ childIssues path .left left ++ childIssues path .right right
      else if type = operandType then
        (operandDefects value (left.isSome || right.isSome)).map (⟨path.text, ·⟩)
      else [⟨path.text, .unknownNodeType type⟩] := by
  cases left <;> cases right <;> rfl

/-- An outline whose nodes have no issues is an operator with two such children, or an operand
without children. -/
theorem nodeIssues_eq_nil_iff {type : String} {value : Option String}
    {left right : Option Outline} {path : Path} :
    (⟨type, value, left, right⟩ : Outline).nodeIssues path = [] ↔
      (type = operatorType ∧ (∃ op : Connective, value = some op.word) ∧
        (∃ child, left = some child ∧ child.nodeIssues (path ++ [.left]) = []) ∧
        ∃ child, right = some child ∧ child.nodeIssues (path ++ [.right]) = []) ∨
      (type = operandType ∧ left = none ∧ right = none ∧
        ∃ text, value = some text ∧ operandDefect? text = none) := by
  have hdistinct : operatorType ≠ operandType := by decide
  rw [nodeIssues_eq]
  split
  case isTrue htype =>
    rw [List.append_eq_nil_iff, List.append_eq_nil_iff, List.map_eq_nil_iff,
      operatorDefects_eq_nil_iff, childIssues_eq_nil_iff, childIssues_eq_nil_iff]
    simp [htype, hdistinct, and_assoc]
  case isFalse htype =>
    split
    case isTrue hoperand =>
      rw [List.map_eq_nil_iff, operandDefects_eq_nil_iff]
      simp [hoperand, hdistinct.symm, and_assoc]
    case isFalse hoperand => simp [htype, hoperand]

/-- An operator with two children that stand for rules stands for their join. -/
theorem decode_operator {op : Connective} {left right : Outline} {ruleLeft ruleRight : Rule}
    (hleft : left.decode = .ok ruleLeft) (hright : right.decode = .ok ruleRight) :
    (⟨operatorType, some op.word, some left, some right⟩ : Outline).decode =
      .ok (.join op ruleLeft ruleRight) := by
  have hop : Connective.read op.word = .ok op := by
    rw [Connective.read, Connective.ofWord?_eq_some_iff.2 rfl]
  unfold decode
  dsimp only
  rw [if_pos rfl, Option.getD_some, hop, hleft, hright]
  rfl

/-- An operand stands for the condition that its text is. -/
theorem decode_operand {text : String} {left right : Option Outline} :
    (⟨operandType, some text, left, right⟩ : Outline).decode = decodeCondition text := by
  unfold decode
  dsimp only
  rw [if_neg (by decide), Option.getD_some]

/-- **An outline whose nodes have no issues stands for a clean rule.**

**Proof sketch.** Induction on the outline. An operator without defects has two children, and the
induction hypotheses give their rules; an operand is a condition. -/
theorem decode_of_nodeIssues : ∀ (outline : Outline) (path : Path), outline.nodeIssues path = [] →
    ∃ rule, outline.decode = .ok rule ∧ rule.Clean
  | ⟨type, value, left, right⟩, path, h => by
    rcases nodeIssues_eq_nil_iff.1 h with
      ⟨rfl, ⟨op, rfl⟩, ⟨left, rfl, hleft⟩, ⟨right, rfl, hright⟩⟩ | ⟨rfl, rfl, rfl, text, rfl, htext⟩
    · obtain ⟨ruleLeft, hdecodeLeft, hcleanLeft⟩ := decode_of_nodeIssues left _ hleft
      obtain ⟨ruleRight, hdecodeRight, hcleanRight⟩ := decode_of_nodeIssues right _ hright
      exact ⟨.join op ruleLeft ruleRight, decode_operator hdecodeLeft hdecodeRight,
        Rule.clean_join_iff.2 ⟨hcleanLeft, hcleanRight⟩⟩
    · obtain ⟨c, hdecode, hclean⟩ := decodeCondition_of_operandDefect? htext
      exact ⟨.condition c, decode_operand.trans hdecode, Rule.clean_condition_iff.2 hclean⟩

/-- The outline of a clean rule has no issues at its nodes, and stands for the rule. -/
theorem nodeIssues_ofRule {rule : Rule} (h : rule.Clean) (path : Path) :
    (ofRule rule).nodeIssues path = [] ∧ (ofRule rule).decode = .ok rule := by
  induction rule generalizing path with
  | condition c =>
    have hclean := Rule.clean_condition_iff.1 h
    refine ⟨nodeIssues_eq_nil_iff.2 (.inr ⟨rfl, rfl, rfl, c.text, rfl, operandDefect?_text hclean⟩),
      ?_⟩
    rw [ofRule, decode_operand, decodeCondition, ofText_text hclean]
    rfl
  | join op left right ihl ihr =>
    obtain ⟨hcleanLeft, hcleanRight⟩ := Rule.clean_join_iff.1 h
    obtain ⟨hleft, hdecodeLeft⟩ := ihl hcleanLeft (path ++ [.left])
    obtain ⟨hright, hdecodeRight⟩ := ihr hcleanRight (path ++ [.right])
    exact ⟨nodeIssues_eq_nil_iff.2 (.inl ⟨rfl, ⟨op, rfl⟩, ⟨_, rfl, hleft⟩, ⟨_, rfl, hright⟩⟩),
      decode_operator hdecodeLeft hdecodeRight⟩

/-! ## Whole outlines -/

variable {outline : Outline} {rule : Rule}

/-- An outline is valid if its nodes have no issues and its rule does not nest too deep. -/
theorem issues_eq_nil_iff :
    outline.issues = [] ↔ outline.nodeIssues [] = [] ∧ outline.nestingIssues = [] := by
  unfold issues
  cases outline.nodeIssues [] <;> simp

/-- An outline with issues is refused with all of them. -/
theorem toRule_of_issues_ne_nil (h : outline.issues ≠ []) :
    outline.toRule = .error (.invalidTree outline.issues) := by
  unfold toRule
  split
  case h_1 hnil => exact absurd hnil h
  case h_2 => rfl

/-- A valid outline is decoded. -/
theorem toRule_of_issues_eq_nil (h : outline.issues = []) : outline.toRule = outline.decode := by
  unfold toRule
  rw [h]

/-- The nesting of an outline is that of the rule it stands for. -/
theorem nestingIssues_of_decode (h : outline.decode = .ok rule) :
    outline.nestingIssues = rule.nestingIssues := by
  unfold nestingIssues
  rw [h]

/-- **A valid outline is read as a valid rule.** -/
theorem exists_toRule (h : outline.issues = []) :
    ∃ rule, outline.toRule = .ok rule ∧ rule.issues = [] := by
  obtain ⟨hnode, hnesting⟩ := issues_eq_nil_iff.1 h
  obtain ⟨rule, hdecode, hclean⟩ := decode_of_nodeIssues outline [] hnode
  rw [nestingIssues_of_decode hdecode] at hnesting
  refine ⟨rule, (toRule_of_issues_eq_nil h).trans hdecode, ?_⟩
  rw [Rule.issues, Rule.conditionIssues_eq_nil_iff.2 hclean, hnesting]
  rfl

/-- **A valid rule is read back from its outline,** which is valid. -/
theorem toRule_ofRule (h : rule.issues = []) :
    (ofRule rule).issues = [] ∧ (ofRule rule).toRule = .ok rule := by
  rw [Rule.issues, List.append_eq_nil_iff, Rule.conditionIssues_eq_nil_iff] at h
  obtain ⟨hclean, hnesting⟩ := h
  obtain ⟨hnode, hdecode⟩ := nodeIssues_ofRule hclean []
  have hissues : (ofRule rule).issues = [] :=
    issues_eq_nil_iff.2 ⟨hnode, (nestingIssues_of_decode hdecode).trans hnesting⟩
  exact ⟨hissues, (toRule_of_issues_eq_nil hissues).trans hdecode⟩

/-- **Checking and decoding never disagree.** An outline is refused with its issues, if it has any,
and is otherwise read as a valid rule; and the valid rules are those that are read back, up to
equality, from their outlines. -/
theorem toRule_iff_valid :
    (∀ outline : Outline,
      (outline.issues ≠ [] ∧ outline.toRule = .error (.invalidTree outline.issues)) ∨
        (outline.issues = [] ∧ ∃ rule, outline.toRule = .ok rule ∧ rule.issues = [])) ∧
    ∀ rule : Rule, (∃ rule', (ofRule rule).toRule = .ok rule' ∧ rule'.equals rule = true) ↔
      rule.issues = [] := by
  have hdecides : ∀ outline : Outline,
      (outline.issues ≠ [] ∧ outline.toRule = .error (.invalidTree outline.issues)) ∨
        (outline.issues = [] ∧ ∃ rule, outline.toRule = .ok rule ∧ rule.issues = []) := by
    intro outline
    by_cases h : outline.issues = []
    · exact .inr ⟨h, exists_toRule h⟩
    · exact .inl ⟨h, toRule_of_issues_ne_nil h⟩
  refine ⟨hdecides, fun rule => ?_⟩
  constructor
  · rintro ⟨rule', hread, hequals⟩
    rcases hdecides (ofRule rule) with ⟨-, herror⟩ | ⟨-, valid, hvalid, hissues⟩
    · rw [herror] at hread
      cases hread
    · rw [hvalid] at hread
      obtain rfl := Except.ok.inj hread
      exact Rule.issues_of_equals hequals hissues
  · intro h
    exact ⟨rule, (toRule_ofRule h).2, Rule.equals_self (Rule.issues_eq_nil_iff.1 h).1⟩

end Criteria.Outline

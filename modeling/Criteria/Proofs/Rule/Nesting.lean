import Criteria.Proofs.Rule.Grammar
import Criteria.Rule.Text

/-!
# Printing needs the fewest brackets

A tree that is written where the grammar expects a certain phrase is bracketed if it binds less
tightly than that phrase. No derivation of the tree gets by with fewer levels of brackets than
its text has.

## Main definitions

* `Criteria.Rule.phrase` — the phrase that the text of a rule is, without brackets around it.
* `Criteria.Phrase.precedence` — how tightly a phrase binds.
* `Criteria.Connective.side` — the phrase that stands on a side of a connective.
* `Criteria.Rule.isLoose`, `Criteria.Rule.depthAs` — whether a rule is bracketed where a phrase is
  expected, and how deep brackets are nested there.

## Main results

* `Criteria.Rule.needsBrackets_eq` — brackets are written where the phrase calls for them.
* `Criteria.Derives.depthAs_le` — the text of a rule nests brackets no deeper than any tokens that
  are read as the rule.
-/

set_option autoImplicit false
set_option relaxedAutoImplicit false

namespace Criteria

/-! ## How tightly phrases bind -/

/-- How tightly a phrase binds: a chain like its connective, an operand tighter than both. -/
def Phrase.precedence : Phrase → Nat
  | .operand => 3
  | .chain op => op.precedence

/-- What stands on a side of a connective: the chain so far, and one more part of it. -/
def Connective.side (op : Connective) : Side → Phrase
  | .left => .chain op
  | .right => op.part

/-- A part binds just one step tighter than the chain. -/
theorem Connective.precedence_part (op : Connective) :
    op.part.precedence = op.precedence + 1 := by
  cases op <;> rfl

/-- Nothing binds less tightly than a disjunction. -/
theorem Phrase.precedence_disj_le (phrase : Phrase) :
    (Phrase.chain .disj).precedence ≤ phrase.precedence := by
  cases phrase with
  | operand => decide
  | chain op => cases op <;> decide

namespace Rule

/-- The phrase that the text of a rule is. -/
def phrase : Rule → Phrase
  | .condition _ => .operand
  | .join op _ _ => .chain op

/-- Whether a rule binds too loosely to stand for a phrase without brackets. -/
def isLoose (rule : Rule) (phrase : Phrase) : Bool := rule.phrase.precedence < phrase.precedence

/-- How deep brackets are nested where a rule stands for a phrase. -/
def depthAs (rule : Rule) (phrase : Phrase) : Nat :=
  rule.bracketDepth + (rule.isLoose phrase).toNat

variable {rule : Rule} {phrase phrase' : Phrase}

/-- **Brackets are written where the phrase calls for them.** -/
theorem needsBrackets_eq (rule : Rule) (parent : Connective) (side : Side) :
    rule.needsBrackets parent side = rule.isLoose (parent.side side) := by
  cases rule with
  | condition c => cases parent <;> cases side <;> rfl
  | join op left right => cases op <;> cases parent <;> cases side <;> rfl

/-- The brackets of a join are those of its sides. -/
theorem bracketDepth_join (op : Connective) (left right : Rule) :
    (join op left right).bracketDepth =
      max (left.depthAs (.chain op)) (right.depthAs op.part) := by
  rw [bracketDepth, needsBrackets_eq, needsBrackets_eq]
  rfl

/-- A rule that binds tightly enough is not too loose. -/
theorem isLoose_eq_false (h : phrase.precedence ≤ rule.phrase.precedence) :
    rule.isLoose phrase = false := decide_eq_false (Nat.not_lt.2 h)

/-- What is too loose for a phrase is too loose for one that binds tighter. -/
theorem toNat_isLoose_mono (rule : Rule) (h : phrase.precedence ≤ phrase'.precedence) :
    (rule.isLoose phrase).toNat ≤ (rule.isLoose phrase').toNat := by
  rcases Nat.lt_or_ge rule.phrase.precedence phrase.precedence with hlt | hge
  · have hloose : rule.isLoose phrase' = true := decide_eq_true (Nat.lt_of_lt_of_le hlt h)
    rw [hloose]
    exact Bool.toNat_le _
  · rw [isLoose_eq_false hge]
    exact Nat.zero_le _

/-- A rule that binds tightly enough is written without brackets around it. -/
theorem depthAs_eq (h : phrase.precedence ≤ rule.phrase.precedence) :
    rule.depthAs phrase = rule.bracketDepth := by
  rw [depthAs, isLoose_eq_false h]
  rfl

/-- At most one pair of brackets is added. -/
theorem depthAs_le_succ (rule : Rule) (phrase : Phrase) :
    rule.depthAs phrase ≤ rule.bracketDepth + 1 :=
  Nat.add_le_add_left (Bool.toNat_le _) _

/-- Where a tighter phrase is expected, brackets are nested at least as deep. -/
theorem depthAs_mono (rule : Rule) (h : phrase.precedence ≤ phrase'.precedence) :
    rule.depthAs phrase ≤ rule.depthAs phrase' :=
  Nat.add_le_add_left (toNat_isLoose_mono rule h) _

end Rule

/-! ## The brackets of derivations -/

variable {phrase phrase' : Phrase} {op : Connective} {depth : Nat} {tokens : List Token}
  {rule : Rule}

/-- A phrase that binds tighter may stand for one that binds less tightly: a part alone is a
chain. -/
theorem Derives.loosen (h : Derives phrase' depth tokens rule)
    (hle : phrase.precedence ≤ phrase'.precedence) : Derives phrase depth tokens rule := by
  have hoperand : Derives .operand depth tokens rule → Derives (.chain .conj) depth tokens rule :=
    fun h => Derives.single h
  have hconjunction : Derives (.chain .conj) depth tokens rule →
      Derives (.chain .disj) depth tokens rule := fun h => Derives.single h
  match phrase, phrase', h, hle with
  | .operand, .operand, h, _ => exact h
  | .chain .conj, .operand, h, _ => exact hoperand h
  | .chain .disj, .operand, h, _ => exact hconjunction (hoperand h)
  | .chain .conj, .chain .conj, h, _ => exact h
  | .chain .disj, .chain .conj, h, _ => exact hconjunction h
  | .chain .disj, .chain .disj, h, _ => exact h
  | .operand, .chain .conj, _, hle => exact absurd hle (by decide)
  | .operand, .chain .disj, _, hle => exact absurd hle (by decide)
  | .chain .conj, .chain .disj, _, hle => exact absurd hle (by decide)

/-- **Printing needs the fewest brackets:** the text of a rule nests them no deeper than any tokens
that are read as the rule.

**Proof sketch.** Induction on the derivation. Brackets in the tokens pay for those that the text
may have around the same tree; the parts of a chain stand where the text has them. -/
theorem Derives.depthAs_le (h : Derives phrase depth tokens rule) :
    rule.depthAs phrase ≤ depth := by
  induction h using Derives.snocInduction with
  | condition => exact Nat.zero_le _
  | @brackets depth _ _ _ rule _ _ _ ih =>
    rw [Rule.depthAs_eq (Phrase.precedence_disj_le _)] at ih
    exact Nat.le_trans (Rule.depthAs_le_succ rule .operand) (Nat.succ_le_succ ih)
  | @single op depth tokens rule _ ih =>
    have hprecedence : (Phrase.chain op).precedence ≤ op.part.precedence := by
      rw [op.precedence_part]
      exact Nat.le_succ _
    exact Nat.le_trans (rule.depthAs_mono hprecedence) ih
  | @snoc op depth _ _ _ left right _ _ _ ihleft ihright =>
    have htight : (Rule.join op left right).depthAs (.chain op) =
        (Rule.join op left right).bracketDepth := Rule.depthAs_eq (Nat.le_refl _)
    rw [htight, Rule.bracketDepth_join]
    exact Nat.max_le.2 ⟨ihleft, ihright⟩

end Criteria

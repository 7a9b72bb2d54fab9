import Criteria.Proofs.Rule.Brackets
import Mathlib.Algebra.Order.Group.Int
import Mathlib.Order.Bounds.Defs

/-!
# No bracket could be left out

The text of a rule has as few brackets as any text that is read as the rule, and nests them no
deeper. Both are shown of the tokens, so brackets in quoted texts do not count.

## Main definitions

* `Criteria.Token.bracketCount` — how many brackets there are among tokens.
* `Criteria.Token.balance` — how many more brackets tokens open than they close.
* `Criteria.Rule.bracketPairs`, `Criteria.Rule.pairsAs` — how many pairs of brackets the text of a
  rule has, and how many where a phrase is expected.

## Main results

* `Criteria.Token.isGreatest_nesting` — tokens nest as deep as brackets are open at one time.
* `Criteria.Derives.pairsAs_le` — a derivation has as many pairs of brackets as its rule needs.
* `Criteria.Rule.exists_scan_text` — the text of a clean rule has just these, and nests them as deep
  as `Rule.bracketDepth` says.
* `Criteria.Rule.writes_fewest_brackets` — no text of the rule does with fewer, or less deep ones.
-/

set_option autoImplicit false
set_option relaxedAutoImplicit false

namespace Criteria

/-! ## Brackets among tokens -/

namespace Token

variable {token : Token} {tokens : List Token}

/-- Whether a token is a bracket. -/
def isBracket (token : Token) : Bool := token.kind == .opening || token.kind == .closing

/-- How many brackets there are among tokens. -/
def bracketCount (tokens : List Token) : Nat := tokens.countP isBracket

/-- How a token changes the number of open brackets. -/
def turn (token : Token) : ℤ :=
  match token.kind with
  | .opening => 1
  | .closing => -1
  | _ => 0

/-- How many more brackets tokens open than they close. -/
def balance : List Token → ℤ
  | [] => 0
  | token :: tokens => token.turn + balance tokens

theorem bracketCount_append (tokens tokens' : List Token) :
    bracketCount (tokens ++ tokens') = bracketCount tokens + bracketCount tokens' :=
  List.countP_append

theorem bracketCount_cons (token : Token) (tokens : List Token) :
    bracketCount (token :: tokens) = bracketCount tokens + token.isBracket.toNat := by
  cases h : token.isBracket <;> simp [bracketCount, h]

/-- Moved tokens have as many brackets. -/
theorem bracketCount_shift (distance : Nat) (tokens : List Token) :
    bracketCount (tokens.map (shift distance)) = bracketCount tokens := by
  rw [bracketCount, List.countP_map]
  rfl

/-- A right-hand side is no bracket. -/
theorem isBracket_rightHandSide {value : Value} (h : token.rightHandSide? = some value) :
    token.isBracket = false := by
  unfold rightHandSide? at h
  cases hkind : token.kind <;> simp_all [isBracket]

/-- A connective is no bracket. -/
theorem isBracket_connective {op : Connective} (h : token.kind = op.kind) :
    token.isBracket = false := by
  cases op <;> simp [isBracket, h, Connective.kind]

/-- Conditions have no brackets. -/
theorem bracketCount_condition {name symbol right : Token} {value : Value}
    (hname : name.kind = .identifier) (hsymbol : symbol.kind = .comparator)
    (hright : right.rightHandSide? = some value) : bracketCount [name, symbol, right] = 0 := by
  rw [bracketCount_cons, bracketCount_cons, bracketCount_cons, isBracket_rightHandSide hright]
  simp [bracketCount, isBracket, hname, hsymbol]

/-- Brackets around tokens add two. -/
theorem bracketCount_enclosed {opening closing : Token} (hopening : opening.kind = .opening)
    (hclosing : closing.kind = .closing) (tokens : List Token) :
    bracketCount (opening :: (tokens ++ [closing])) = bracketCount tokens + 2 := by
  simp [bracketCount, isBracket, hopening, hclosing]

/-- Tokens nest as deep as those behind the first do, one level more or less if it is a bracket. -/
theorem nesting_cons_eq_max (token : Token) (tokens : List Token) :
    (nesting (token :: tokens) : ℤ) = max 0 (token.turn + nesting tokens) := by
  cases hkind : token.kind <;> simp only [nesting, turn, hkind] <;> omega

/-- **Tokens nest as deep as brackets are open at one time,** that is behind some of the tokens, at
most. -/
theorem isGreatest_nesting (tokens : List Token) :
    IsGreatest {depth : ℤ | ∃ front, front <+: tokens ∧ balance front = depth}
      (nesting tokens) := by
  induction tokens with
  | nil =>
    refine ⟨⟨[], List.prefix_rfl, rfl⟩, ?_⟩
    rintro depth ⟨front, hfront, rfl⟩
    rw [List.prefix_nil.1 hfront]
    exact le_rfl
  | cons token tokens ih =>
    obtain ⟨⟨front, hfront, hbalance⟩, hgreatest⟩ := ih
    rw [nesting_cons_eq_max]
    constructor
    · rcases le_total (token.turn + nesting tokens) 0 with hle | hge
      · rw [max_eq_left hle]
        exact ⟨[], List.nil_prefix, rfl⟩
      · rw [max_eq_right hge, ← hbalance]
        exact ⟨token :: front, List.cons_prefix_cons.2 ⟨rfl, hfront⟩, rfl⟩
    · rintro depth ⟨front', hfront', rfl⟩
      rcases List.prefix_cons_iff.1 hfront' with rfl | ⟨more, rfl, hmore⟩
      · exact le_max_left _ _
      · have hle : balance more ≤ nesting tokens := hgreatest ⟨more, hmore, rfl⟩
        rw [balance]
        exact (add_le_add le_rfl hle).trans (le_max_right _ _)

end Token

open Token (bracketCount nesting)

/-! ## Pairs of brackets that a rule needs -/

namespace Rule

/-- How many pairs of brackets the text of a rule has. -/
def bracketPairs : Rule → Nat
  | .condition _ => 0
  | .join op left right =>
    left.bracketPairs + (left.needsBrackets op .left).toNat +
      (right.bracketPairs + (right.needsBrackets op .right).toNat)

/-- How many pairs of brackets there are where a rule stands for a phrase. -/
def pairsAs (rule : Rule) (phrase : Phrase) : Nat :=
  rule.bracketPairs + (rule.isLoose phrase).toNat

variable {rule : Rule} {phrase phrase' : Phrase}

/-- The brackets of a join are those of its sides. -/
theorem bracketPairs_join (op : Connective) (left right : Rule) :
    (join op left right).bracketPairs = left.pairsAs (.chain op) + right.pairsAs op.part := by
  rw [bracketPairs, needsBrackets_eq, needsBrackets_eq]
  rfl

/-- A rule that binds tightly enough is written without brackets around it. -/
theorem pairsAs_eq (h : phrase.precedence ≤ rule.phrase.precedence) :
    rule.pairsAs phrase = rule.bracketPairs := by
  rw [pairsAs, isLoose_eq_false h]
  rfl

/-- Where a tighter phrase is expected, there are at least as many brackets. -/
theorem pairsAs_mono (rule : Rule) (h : phrase.precedence ≤ phrase'.precedence) :
    rule.pairsAs phrase ≤ rule.pairsAs phrase' :=
  Nat.add_le_add_left (toNat_isLoose_mono rule h) _

end Rule

variable {phrase : Phrase} {depth : Nat} {tokens : List Token} {rule : Rule}

/-- **A derivation has as many pairs of brackets as its rule needs.**

**Proof sketch.** Induction on the derivation, as for `Derives.depthAs_le`. A pair of brackets in
the tokens pays for the one that the text may have around the same rule. -/
theorem Derives.pairsAs_le (h : Derives phrase depth tokens rule) :
    2 * rule.pairsAs phrase ≤ bracketCount tokens := by
  induction h using Derives.snocInduction with
  | condition => exact Nat.zero_le _
  | @brackets _ opening closing tokens rule hopening hclosing _ ih =>
    rw [Rule.pairsAs_eq (Phrase.precedence_disj_le _)] at ih
    have hadded : rule.pairsAs .operand ≤ rule.bracketPairs + 1 :=
      Nat.add_le_add_left (Bool.toNat_le _) _
    rw [Token.bracketCount_enclosed hopening hclosing]
    omega
  | @single op _ _ rule _ ih =>
    have hprecedence : (Phrase.chain op).precedence ≤ op.part.precedence := by
      rw [op.precedence_part]
      exact Nat.le_succ _
    have hmono := rule.pairsAs_mono hprecedence
    omega
  | @snoc op _ tokens tokens' connective left right _ hkind _ ihleft ihright =>
    have htight : (Rule.join op left right).pairsAs (.chain op) =
        (Rule.join op left right).bracketPairs := Rule.pairsAs_eq (Nat.le_refl _)
    rw [htight, Rule.bracketPairs_join, Token.bracketCount_append, Token.bracketCount_cons,
      Token.isBracket_connective hkind, Bool.toNat_false]
    omega

/-! ## The brackets of a text -/

namespace Rule

/-- A text in brackets has two more, where they are needed. -/
theorem exists_scan_bracketed {text : String} (h : Token.scan text.toList = .ok tokens)
    (needed : Bool) : ∃ tokens', Token.scan (bracketed needed text).toList = .ok tokens' ∧
      bracketCount tokens' = bracketCount tokens + 2 * needed.toNat := by
  cases needed with
  | false => exact ⟨tokens, h, rfl⟩
  | true =>
    obtain ⟨opening, closing, hopening, hclosing, hscan⟩ := Token.scan_brackets h
    refine ⟨_, by rwa [toList_bracketed], ?_⟩
    rw [Token.bracketCount_enclosed hopening hclosing, Token.bracketCount_shift]
    rfl

/-- The text of a clean rule has just the pairs of brackets that the rule needs.

**Proof sketch.** Induction on the rule. The tokens of a join are those of its sides, in brackets if
they are needed, with one for the connective between them. -/
theorem exists_bracketCount_text (h : rule.Clean) : ∃ tokens,
    Token.scan rule.text.toList = .ok tokens ∧ bracketCount tokens = 2 * rule.bracketPairs := by
  induction rule with
  | condition c =>
    obtain ⟨name, symbol, right, hscan, hname, -, hsymbol, -, hright⟩ :=
      Condition.scan_text (clean_condition_iff.1 h)
    exact ⟨_, hscan, Token.bracketCount_condition hname hsymbol hright⟩
  | join op left right ihl ihr =>
    obtain ⟨hcleanLeft, hcleanRight⟩ := clean_join_iff.1 h
    obtain ⟨tokensLeft, hscanLeft, hleft⟩ := ihl hcleanLeft
    obtain ⟨tokensRight, hscanRight, hright⟩ := ihr hcleanRight
    obtain ⟨allLeft, hscanLeft, hallLeft⟩ :=
      exists_scan_bracketed hscanLeft (left.isLoose (.chain op))
    obtain ⟨allRight, hscanRight, hallRight⟩ :=
      exists_scan_bracketed hscanRight (right.isLoose op.part)
    obtain ⟨word, hword, hkind⟩ := op.scan_word
    have hnone : bracketCount [word] = 0 := by
      rw [Token.bracketCount_cons, Token.isBracket_connective hkind]
      rfl
    refine ⟨_, by
      rw [toList_text_join]
      exact Token.scan_append_blank hscanLeft (Token.scan_append_blank hword hscanRight), ?_⟩
    rw [Token.bracketCount_append, Token.bracketCount_shift, Token.bracketCount_append,
      Token.bracketCount_shift, hnone, hallLeft, hallRight, hleft, hright, bracketPairs_join,
      pairsAs, pairsAs]
    omega

/-- **The brackets of the text of a clean rule:** there are as many pairs of them as the rule needs,
nested as deep as `bracketDepth` says. -/
theorem exists_scan_text (h : rule.Clean) : ∃ tokens, Token.scan rule.text.toList = .ok tokens ∧
    bracketCount tokens = 2 * rule.bracketPairs ∧ nesting tokens = rule.bracketDepth := by
  obtain ⟨tokens, hscan, hbrackets⟩ := exists_bracketCount_text h
  obtain ⟨tokens', hscan', hderives⟩ := spells_text h
  obtain rfl : tokens = tokens' := Except.ok.inj (hscan.symm.trans hscan')
  exact ⟨tokens, hscan, hbrackets,
    Nat.le_antisymm hderives.nesting_le hderives.bracketDepth_le_nesting⟩

/-- **No bracket could be left out.**

1. Whatever text is read as a rule, its tokens have at least as many brackets among them as those of
the text that is written for the rule, and nest them at least as deep.
2. The text that is written for a valid rule nests its brackets as deep as `bracketDepth` says.
3. How deep tokens nest is the greatest number of brackets that are open behind some of them. -/
theorem writes_fewest_brackets :
    (∀ text rule, ofText text = .ok rule → ∃ tokens written,
      Token.scan text.toList = .ok tokens ∧ Token.scan rule.text.toList = .ok written ∧
        bracketCount written ≤ bracketCount tokens ∧ nesting written ≤ nesting tokens) ∧
    (∀ rule : Rule, rule.issues = [] → ∃ written,
      Token.scan rule.text.toList = .ok written ∧ rule.bracketDepth = nesting written) ∧
    ∀ tokens, IsGreatest {depth : ℤ | ∃ front, front <+: tokens ∧ Token.balance front = depth}
      (nesting tokens) := by
  refine ⟨fun text rule h => ?_, fun rule h => ?_, Token.isGreatest_nesting⟩
  · obtain ⟨tokens, hscan, hderives⟩ := ofText_eq_ok_iff.1 h
    obtain ⟨hclean, -⟩ := issues_eq_nil_iff.1 (issues_of_ofText h)
    obtain ⟨written, hwritten, hbrackets, hnesting⟩ := exists_scan_text hclean
    refine ⟨tokens, written, hscan, hwritten, ?_, ?_⟩
    · have hpairs := hderives.pairsAs_le
      rwa [pairsAs_eq (Phrase.precedence_disj_le _), ← hbrackets] at hpairs
    · rw [hnesting]
      exact hderives.bracketDepth_le_nesting
  · obtain ⟨hclean, -⟩ := issues_eq_nil_iff.1 h
    obtain ⟨written, hwritten, -, hnesting⟩ := exists_scan_text hclean
    exact ⟨written, hwritten, hnesting.symm⟩

/-- A text with brackets that are not needed, around a condition and around a conjunction on the
left of another, with some that are, and with one in quotation marks. -/
theorem writes_fewest_brackets_quoted :
    let rule : Rule := .join .conj
      (.join .conj (.condition ⟨"a", .eq, .string "x"⟩) (.condition ⟨"b", .eq, .string ")"⟩))
      (.join .disj (.condition ⟨"c", .eq, .string "y"⟩) (.condition ⟨"d", .eq, .string "z"⟩))
    ofText "((a = x) AND b = ')') AND (c = y OR (d = z))" = .ok rule ∧
    (∃ tokens written,
      Token.scan "((a = x) AND b = ')') AND (c = y OR (d = z))".toList = .ok tokens ∧
      Token.scan rule.text.toList = .ok written ∧
        bracketCount written ≤ bracketCount tokens ∧ nesting written ≤ nesting tokens) ∧
    rule.issues = [] ∧
    ∃ written, Token.scan rule.text.toList = .ok written ∧ rule.bracketDepth = nesting written := by
  intro rule
  have hread : ofText "((a = x) AND b = ')') AND (c = y OR (d = z))" = .ok rule := rfl
  have hvalid : rule.issues = [] := issues_of_ofText hread
  obtain ⟨hfewest, hdepth, -⟩ := writes_fewest_brackets
  exact ⟨hread, hfewest _ _ hread, hvalid, hdepth rule hvalid⟩

end Rule

end Criteria

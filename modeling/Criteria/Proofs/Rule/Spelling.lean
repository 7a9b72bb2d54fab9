import Criteria.Proofs.Rule.Nesting
import Criteria.Proofs.Rule.Parse
import Criteria.Proofs.Token.Literal

/-!
# Texts of rules

What it means for a text to spell a rule, how such texts are put together, and which rules are
spelled by the text that is printed for them.

## Main definitions

* `Criteria.Spells` — a text whose tokens have a derivation with a given tree.
* `Criteria.Rule.Clean` — rules whose conditions have no defects.

## Main results

* `Criteria.Rule.ofText_eq_ok_iff` — the texts that are read as a rule are those that spell it.
* `Criteria.Spells.brackets`, `Criteria.Spells.join` — texts of rules put together.
* `Criteria.Rule.spells_text` — the text of a clean rule spells it.
* `Criteria.Rule.ofText_text` — a rule without issues is read from its text.
* `Criteria.Rule.issues_of_ofText` — what is read from a text has no issues.
-/

set_option autoImplicit false
set_option relaxedAutoImplicit false

namespace Criteria

/-! ## Derivations of moved tokens -/

variable {phrase : Phrase} {op : Connective} {depth depth' : Nat} {tokens : List Token}
  {text text' : List Char} {rule left right : Rule}

/-- The grammar does not see where tokens stand. -/
theorem Derives.shift (h : Derives phrase depth tokens rule) (distance : Nat) :
    Derives phrase depth (tokens.map (Token.shift distance)) rule := by
  induction h using Derives.snocInduction with
  | condition hname hsymbol htext hright => exact .condition hname hsymbol htext hright
  | brackets hopening hclosing _ ih =>
    rw [List.map_cons, List.map_append]
    exact .brackets hopening hclosing ih
  | single _ ih => exact ih.single
  | snoc _ hkind _ ihleft ihright =>
    rw [List.map_append, List.map_cons]
    exact ihleft.snoc hkind ihright

/-! ## Texts put together -/

/-- A text whose tokens are a phrase of the given sort, with brackets at most `depth` deep, of
which `rule` is the tree. -/
def Spells (phrase : Phrase) (depth : Nat) (text : List Char) (rule : Rule) : Prop :=
  ∃ tokens, Token.scan text = .ok tokens ∧ Derives phrase depth tokens rule

/-- The texts that are read as a rule are those that spell it as a disjunction. -/
theorem Rule.ofText_eq_ok_iff {text : String} :
    ofText text = .ok rule ↔ Spells (.chain .disj) maxNesting text.toList rule := by
  unfold ofText Spells
  cases Token.scan text.toList with
  | error fault => simp [Bind.bind, Except.bind]
  | ok tokens =>
    show ofTokensUpTo text.length tokens = .ok rule ↔ _
    rw [ofTokensUpTo_eq_ok_iff, Parse.run_eq_ok_iff]
    simp

namespace Spells

/-- What spells a rule with some levels of brackets does so with more allowed. -/
theorem mono (h : Spells phrase depth text rule) (hle : depth ≤ depth') :
    Spells phrase depth' text rule := by
  obtain ⟨tokens, hscan, hderives⟩ := h
  exact ⟨tokens, hscan, hderives.mono hle⟩

/-- What spells a rule as a phrase spells it as one that binds less tightly. -/
theorem loosen {phrase' : Phrase} (h : Spells phrase' depth text rule)
    (hle : phrase.precedence ≤ phrase'.precedence) : Spells phrase depth text rule := by
  obtain ⟨tokens, hscan, hderives⟩ := h
  exact ⟨tokens, hscan, hderives.loosen hle⟩

/-- A disjunction in brackets is an operand. -/
theorem brackets (h : Spells (.chain .disj) depth text rule) :
    Spells .operand (depth + 1) ('(' :: (text ++ [')'])) rule := by
  obtain ⟨tokens, hscan, hderives⟩ := h
  obtain ⟨opening, closing, hopening, hclosing, hbrackets⟩ := Token.scan_brackets hscan
  exact ⟨_, hbrackets, .brackets hopening hclosing (hderives.shift 1)⟩

/-- A chain, the word for its connective and one more part, with blanks between them, are a
longer chain. -/
theorem join (h : Spells (.chain op) depth text left) (h' : Spells op.part depth text' right) :
    Spells (.chain op) depth (text ++ ' ' :: (op.word.toList ++ ' ' :: text'))
      (.join op left right) := by
  obtain ⟨tokens, hscan, hleft⟩ := h
  obtain ⟨tokens', hscan', hright⟩ := h'
  obtain ⟨word, hword, hkind⟩ := op.scan_word
  refine ⟨_, Token.scan_append_blank hscan (Token.scan_append_blank hword hscan'), ?_⟩
  rw [List.map_append, List.map_singleton, List.singleton_append]
  exact hleft.snoc hkind ((hright.shift _).shift _)

end Spells

/-! ## The text of a rule -/

/-- The attribute of a condition is in order if it is a name. -/
theorem Condition.nameDefects_eq_nil_iff {c : Condition} :
    c.nameDefects = [] ↔ isName c.name = true := by
  unfold nameDefects
  split
  case isTrue htrim =>
    have hname : isName c.name ≠ true := fun hname => trimBlank_ne_nil hname htrim
    simp [hname]
  case isFalse => simp

/-- The literal of a condition is in order if it is no number that is not finite. -/
theorem Condition.valueDefects_eq_nil_iff {c : Condition} :
    c.valueDefects = [] ↔ c.value.Finite := by
  unfold valueDefects Value.Finite
  cases c.value <;> simp

/-- A condition is in order if its attribute is a name and its literal, if a number, is finite. -/
theorem Condition.defects_eq_nil_iff {c : Condition} :
    c.defects = [] ↔ isName c.name = true ∧ c.value.Finite := by
  rw [defects, List.append_eq_nil_iff, nameDefects_eq_nil_iff, valueDefects_eq_nil_iff]

/-- A name, the symbol of a comparator and one token for a literal, with blanks between them, are
the tokens of a condition. -/
theorem Condition.scan_parts {c : Condition} {literal : List Char} (hname : isName c.name = true)
    (hliteral : ∃ right, Token.scan literal = .ok [right] ∧ right.rightHandSide? = some c.value) :
    ∃ name symbol right : Token,
      Token.scan (c.name.toList ++ ' ' :: (c.comparator.symbol.toList ++ ' ' :: literal)) =
          .ok [name, symbol, right] ∧
        name.kind = .identifier ∧ name.text = c.name ∧
        symbol.kind = .comparator ∧ symbol.text = c.comparator.symbol ∧
        right.rightHandSide? = some c.value := by
  obtain ⟨name, hscanName, hnameKind, hnameText⟩ := isName_iff.1 hname
  obtain ⟨symbol, hscanSymbol, hsymbolKind, hsymbolText⟩ := c.comparator.scan_symbol
  obtain ⟨right, hscanRight, hright⟩ := hliteral
  have hscan := Token.scan_append_blank hscanName (Token.scan_append_blank hscanSymbol hscanRight)
  exact ⟨name, _, _, hscan, hnameKind, hnameText, hsymbolKind, hsymbolText, hright⟩

/-- A name, the symbol of a comparator and one token for a literal spell a condition. -/
theorem Condition.spells_parts {c : Condition} {literal : List Char} (hname : isName c.name = true)
    (hliteral : ∃ right, Token.scan literal = .ok [right] ∧ right.rightHandSide? = some c.value) :
    Spells .operand 0 (c.name.toList ++ ' ' :: (c.comparator.symbol.toList ++ ' ' :: literal))
      (.condition c) := by
  obtain ⟨name, symbol, right, hscan, hname, htext, hsymbol, hcomparator, hright⟩ :=
    scan_parts hname hliteral
  refine ⟨_, hscan, ?_⟩
  have hderives : Derives .operand 0 _ _ := .condition hname hsymbol hcomparator hright
  rwa [htext] at hderives

theorem Condition.toList_text (c : Condition) : c.text.toList =
    c.name.toList ++ ' ' :: (c.comparator.symbol.toList ++ ' ' :: c.value.text.toList) := by
  simp [text]

/-- A condition without defects is written as its name, its comparator and its literal. -/
theorem Condition.scan_text {c : Condition} (h : c.defects = []) : ∃ name symbol right : Token,
    Token.scan c.text.toList = .ok [name, symbol, right] ∧
      name.kind = .identifier ∧ name.text = c.name ∧
      symbol.kind = .comparator ∧ symbol.text = c.comparator.symbol ∧
      right.rightHandSide? = some c.value := by
  obtain ⟨hname, hvalue⟩ := defects_eq_nil_iff.1 h
  rw [toList_text]
  exact scan_parts hname (Value.scan_text hvalue)

/-- A condition without defects is spelled by its text. -/
theorem Condition.spells_text {c : Condition} (h : c.defects = []) :
    Spells .operand 0 c.text.toList (.condition c) := by
  obtain ⟨hname, hvalue⟩ := defects_eq_nil_iff.1 h
  rw [toList_text]
  exact spells_parts hname (Value.scan_text hvalue)

/-- A text in brackets. -/
theorem Rule.toList_bracketed (text : String) :
    (Rule.bracketed true text).toList = '(' :: (text.toList ++ [')']) := by
  simp [bracketed]

/-- What spells a rule spells it in every place, with brackets if the place calls for them. -/
theorem Spells.bracketed {text : String}
    (h : Spells rule.phrase rule.bracketDepth text.toList rule) (phrase : Phrase) :
    Spells phrase (rule.depthAs phrase) (Rule.bracketed (rule.isLoose phrase) text).toList
      rule := by
  cases hloose : rule.isLoose phrase with
  | false =>
    have hle : phrase.precedence ≤ rule.phrase.precedence :=
      Nat.not_lt.1 (of_decide_eq_false hloose)
    rw [Rule.depthAs_eq hle]
    exact h.loosen hle
  | true =>
    have hoperand := (h.loosen (Phrase.precedence_disj_le rule.phrase)).brackets
    rw [Rule.toList_bracketed, Rule.depthAs, hloose]
    cases phrase with
    | operand => exact hoperand
    | chain op => exact hoperand.loosen (by cases op <;> decide)

namespace Rule

/-- The conditions of a rule have no defects. -/
def Clean (rule : Rule) : Prop := ∀ c ∈ rule.conditions, c.defects = []

/-- A condition is clean if it has no defects. -/
theorem clean_condition_iff {c : Condition} : (condition c).Clean ↔ c.defects = [] :=
  List.forall_mem_singleton

/-- A join is clean if its sides are. -/
theorem clean_join_iff {op : Connective} {left right : Rule} :
    (join op left right).Clean ↔ left.Clean ∧ right.Clean := List.forall_mem_append

/-- The text of a join is the texts of its sides, in brackets if they are too loose for where they
stand, with the word for the connective between them. -/
theorem toList_text_join (op : Connective) (left right : Rule) :
    (join op left right).text.toList =
      (bracketed (left.isLoose (.chain op)) left.text).toList ++
        ' ' :: (op.word.toList ++
          ' ' :: (bracketed (right.isLoose op.part) right.text).toList) := by
  rw [text, needsBrackets_eq, needsBrackets_eq]
  simp [Connective.side]

/-- **The text of a clean rule spells it,** with brackets as deep as `bracketDepth` says.

**Proof sketch.** Induction on the rule. Each side is spelled where it stands
(`Spells.bracketed`), and the sides are put together by `Spells.join`. -/
theorem spells_text {rule : Rule} (h : rule.Clean) :
    Spells rule.phrase rule.bracketDepth rule.text.toList rule := by
  induction rule with
  | condition c => exact Condition.spells_text (clean_condition_iff.1 h)
  | join op left right ihl ihr =>
    obtain ⟨hcleanLeft, hcleanRight⟩ := clean_join_iff.1 h
    have hleft := (ihl hcleanLeft).bracketed (.chain op)
    have hright := (ihr hcleanRight).bracketed op.part
    have hjoin := (hleft.mono (Nat.le_max_left _ _)).join (hright.mono (Nat.le_max_right _ _))
    rw [← bracketDepth_join] at hjoin
    rwa [toList_text_join]

/-! ## Rules without issues -/

/-- The conditions of a rule have no issues, wherever it stands, if it is clean. -/
theorem conditionIssues_eq_nil_iff {rule : Rule} {path : Path} :
    rule.conditionIssues path = [] ↔ rule.Clean := by
  induction rule generalizing path with
  | condition c => rw [conditionIssues, List.map_eq_nil_iff, clean_condition_iff]
  | join op left right ihl ihr =>
    rw [conditionIssues, List.append_eq_nil_iff, ihl, ihr, clean_join_iff]

/-- A rule is valid if it is clean and its text does not nest too deep. -/
theorem issues_eq_nil_iff {rule : Rule} :
    rule.issues = [] ↔ rule.Clean ∧ rule.bracketDepth ≤ maxNesting := by
  rw [issues, List.append_eq_nil_iff, conditionIssues_eq_nil_iff, nestingIssues]
  split <;> simp <;> omega

/-- **A rule without issues is read from its text.** -/
theorem ofText_text {rule : Rule} (h : rule.issues = []) : ofText rule.text = .ok rule := by
  obtain ⟨hclean, hdepth⟩ := issues_eq_nil_iff.1 h
  rw [ofText_eq_ok_iff]
  exact ((spells_text hclean).loosen (Phrase.precedence_disj_le _)).mono hdepth

end Rule

/-- A token that stands for a number on the right of a comparator has it as its value. -/
theorem Token.value_of_rightHandSide? {token : Token} {n : Number}
    (h : token.rightHandSide? = some (.number n)) : token.value = some (.number n) := by
  unfold rightHandSide? at h
  split at h
  · cases hvalue : token.value with
    | none => simp [hvalue] at h
    | some value => simpa [hvalue] using h
  · cases h
  · cases h

/-- What is derived from sound tokens is clean. -/
theorem Derives.clean (h : Derives phrase depth tokens rule)
    (hsound : ∀ token ∈ tokens, token.Sound) : rule.Clean := by
  induction h using Derives.snocInduction with
  | @condition _ name symbol right comparator value hname _ _ hright =>
    rw [Rule.clean_condition_iff]
    have hsoundName := hsound name (by simp)
    have hsoundRight := hsound right (by simp)
    refine Condition.defects_eq_nil_iff.2 ⟨hsoundName.isName_text hname, fun n hn => ?_⟩
    obtain rfl : value = .number n := hn
    exact hsoundRight.isFinite_value n (Token.value_of_rightHandSide? hright)
  | brackets _ _ _ ih =>
    exact ih fun token htoken => hsound token (by simp [htoken])
  | single _ ih => exact ih hsound
  | snoc _ _ _ ihleft ihright =>
    have hleft := ihleft fun token htoken => hsound token (by simp [htoken])
    have hright := ihright fun token htoken => hsound token (by simp [htoken])
    exact Rule.clean_join_iff.2 ⟨hleft, hright⟩

/-- **What is read from a text has no issues.** -/
theorem Rule.issues_of_ofText {text : String} (h : ofText text = .ok rule) :
    rule.issues = [] := by
  obtain ⟨tokens, hscan, hderives⟩ := ofText_eq_ok_iff.1 h
  have hdepth := hderives.depthAs_le
  rw [depthAs_eq (Phrase.precedence_disj_le _)] at hdepth
  exact issues_eq_nil_iff.2 ⟨hderives.clean (Token.sound_of_mem_scanFrom hscan), hdepth⟩

end Criteria

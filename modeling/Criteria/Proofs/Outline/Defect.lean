import Criteria.Proofs.Outline.Decode
import Criteria.Proofs.Token.Tiling

/-!
# The defects of a node

What is wrong with a node of an outline taken by itself, said of its tokens and its parts and not
by the order in which they are checked.

## Main definitions

* `Criteria.Outline.TextDefect` — what is wrong with a text as that of a condition.
* `Criteria.Outline.HasDefect` — what is wrong with a node.

## Main results

* `Criteria.Outline.operandDefect?_eq_some_iff` — the defect that is found in a text is the one
  that it has.
* `Criteria.Outline.operandDefect?_eq_none_iff` — a text without a defect is a name, a comparator
  and a right-hand side.
* `Criteria.Outline.mem_operatorDefects_iff`, `Criteria.Outline.mem_operandDefects_iff` — the
  defects that are found in the value and the children of a node.
-/

set_option autoImplicit false
set_option relaxedAutoImplicit false

namespace Criteria

/-! ## Conditions as tokens -/

/-- A token that is read as a comparator has the symbol of one. -/
theorem Token.exists_comparator_of_mem_scan {text : List Char} {tokens : List Token}
    {token : Token} (h : scan text = .ok tokens) (hmem : token ∈ tokens)
    (hkind : token.kind = .comparator) :
    ∃ comparator : Comparator, token.text = comparator.symbol := by
  have htiles : Tiles [] text tokens := tiles_of_scanFrom (fun _ hc => by cases hc) h
  cases htiles.reproduces token hmem with
  | symbol hsymbol _ _ =>
    rw [hkind] at hsymbol
    simp only [symbols, List.cons_append, List.nil_append, List.mem_cons, List.mem_map,
      Prod.mk.injEq, reduceCtorEq, false_and, false_or, true_and] at hsymbol
    obtain ⟨comparator, -, htext⟩ := hsymbol
    exact ⟨comparator, htext.symm⟩
  | quoted _ _ _ hliteral _ =>
    rw [hkind] at hliteral
    cases hliteral
  | word _ _ _ _ hdenotes =>
    have hdenotes := (hdenotes token.kind token.value).2 ⟨rfl, rfl⟩
    rw [hkind] at hdenotes
    cases hdenotes

/-- A right-hand side is a literal or a name. -/
theorem Token.exists_rightHandSide?_iff {token : Token} :
    (∃ value, token.rightHandSide? = some value) ↔
      token.kind = .literal ∨ token.kind = .identifier := by
  unfold rightHandSide?
  cases token.kind <;> simp

/-- `IsCondition tokens`: a name, a comparator and a right-hand side. -/
inductive Token.IsCondition : List Token → Prop where
  /-- Three tokens. -/
  | mk {name symbol right : Token} (name_kind : name.kind = .identifier)
      (symbol_kind : symbol.kind = .comparator)
      (right_kind : right.kind = .literal ∨ right.kind = .identifier) :
      IsCondition [name, symbol, right]

/-- **A phrase that is a condition is three tokens or starts with a bracket,** behind which no
comparator stands. -/
theorem Derives.isCondition {phrase : Phrase} {depth : Nat} {tokens : List Token} {c : Condition}
    (h : Derives phrase depth tokens (.condition c)) :
    Token.IsCondition tokens ∨ ∃ opening second rest, tokens = opening :: second :: rest ∧
      opening.kind = .opening ∧ second.kind ≠ .comparator := by
  generalize hrule : Rule.condition c = rule at h
  induction h using Derives.snocInduction with
  | condition hname hsymbol _ hright =>
    exact .inl (.mk hname hsymbol (Token.exists_rightHandSide?_iff.1 ⟨_, hright⟩))
  | @brackets _ opening closing _ _ hopening _ _ ih =>
    right
    rcases ih hrule with ⟨hname, -, -⟩ | ⟨second, next, rest, rfl, hsecond, -⟩
    · exact ⟨opening, _, _, rfl, hopening, by simp [hname]⟩
    · exact ⟨opening, second, _, rfl, hopening, by simp [hsecond]⟩
  | single _ ih => exact ih hrule
  | snoc => cases hrule

namespace Outline

/-! ## Defects of texts -/

/-- `OpeningDefect tokens defect`: the defect that the first tokens of a condition have. -/
inductive OpeningDefect : List Token → Defect → Prop where
  /-- There are no tokens. -/
  | blank : OpeningDefect [] .missingValue
  /-- A comparator comes first. -/
  | noAttribute {symbol : Token} {rest : List Token} (hsymbol : symbol.kind = .comparator) :
      OpeningDefect (symbol :: rest) .emptyAttribute
  /-- Something other than a comparator comes second. -/
  | noComparator {first second : Token} {rest : List Token} (hfirst : first.kind ≠ .comparator)
      (hsecond : second.kind ≠ .comparator) :
      OpeningDefect (first :: second :: rest) (.unknownComparator second.text)
  /-- Nothing comes third. -/
  | noLiteral {first symbol : Token} (hfirst : first.kind ≠ .comparator)
      (hsymbol : symbol.kind = .comparator) : OpeningDefect [first, symbol] .missingValue

/-- `Opens tokens`: the first tokens have no defect. Either only one token is there, which is no
comparator, or a comparator comes second and a further token third. -/
inductive Opens : List Token → Prop where
  /-- One token. -/
  | lone {first : Token} (hfirst : first.kind ≠ .comparator) : Opens [first]
  /-- At least three tokens. -/
  | compared {first symbol right : Token} {rest : List Token} (hfirst : first.kind ≠ .comparator)
      (hsymbol : symbol.kind = .comparator) : Opens (first :: symbol :: right :: rest)

/-- `TextDefect text defect`: as the text of a condition, `text` has the defect. What the first
tokens lack is named; a text whose first tokens lack nothing, and that still is no condition, has
the fault that it is refused with, or is a rule with connectives. -/
inductive TextDefect (text : String) : Defect → Prop where
  /-- The text cannot be split into tokens. -/
  | unsplit {fault : Fault} (hscan : Token.scan text.toList = .error fault) :
      TextDefect text (.malformedOperand fault.message)
  /-- The first tokens have a defect. -/
  | opening {tokens : List Token} {defect : Defect} (hscan : Token.scan text.toList = .ok tokens)
      (hdefect : OpeningDefect tokens defect) : TextDefect text defect
  /-- The text is no rule. -/
  | refused {tokens : List Token} {fault : Fault} (hscan : Token.scan text.toList = .ok tokens)
      (hopens : Opens tokens) (hread : Rule.ofText text = .error fault) :
      TextDefect text (.malformedOperand fault.message)
  /-- The text is a rule with connectives. -/
  | joined {tokens : List Token} {op : Connective} {left right : Rule}
      (hscan : Token.scan text.toList = .ok tokens) (hopens : Opens tokens)
      (hread : Rule.ofText text = .ok (.join op left right)) :
      TextDefect text (.malformedOperand "条件中不能包含逻辑操作符")

/-- The defect that is found in the first tokens is the one that they have. -/
theorem openingDefect?_eq_some_iff {tokens : List Token} {defect : Defect} :
    openingDefect? tokens = some defect ↔ OpeningDefect tokens defect := by
  constructor
  · intro h
    unfold openingDefect? at h
    split at h
    · obtain rfl := Option.some.inj h
      exact .blank
    · split_ifs at h with hfirst
      · obtain rfl := Option.some.inj h
        exact .noAttribute hfirst
      · split at h
        · cases h
        · split_ifs at h with hsecond hrest
          · obtain rfl := Option.some.inj h
            exact .noComparator hfirst hsecond
          · obtain rfl := Option.some.inj h
            subst hrest
            exact .noLiteral hfirst (not_not.1 hsecond)
  · rintro (_ | hsymbol | ⟨hfirst, hsecond⟩ | ⟨hfirst, hsymbol⟩) <;> simp [openingDefect?, *]

/-- No defect is found in the first tokens if they have none. -/
theorem openingDefect?_eq_none_iff {tokens : List Token} :
    openingDefect? tokens = none ↔ Opens tokens := by
  constructor
  · intro h
    unfold openingDefect? at h
    split at h
    · cases h
    · split_ifs at h with hfirst
      split at h
      · exact .lone hfirst
      · split_ifs at h with hsecond hrest
        obtain ⟨right, rest, rfl⟩ := List.exists_cons_of_ne_nil hrest
        exact .compared hfirst (not_not.1 hsecond)
  · rintro (hfirst | ⟨hfirst, hsymbol⟩) <;> simp [openingDefect?, *]

/-- **The defect that is found in a text is the one that it has.** -/
theorem operandDefect?_eq_some_iff {text : String} {defect : Defect} :
    operandDefect? text = some defect ↔ TextDefect text defect := by
  constructor
  · intro h
    unfold operandDefect? at h
    split at h
    case h_1 fault hscan =>
      obtain rfl := Option.some.inj h
      exact .unsplit hscan
    case h_2 tokens hscan =>
      split at h
      case h_1 found hopening =>
        obtain rfl := Option.some.inj h
        exact .opening hscan (openingDefect?_eq_some_iff.1 hopening)
      case h_2 hopening =>
        have hopens := openingDefect?_eq_none_iff.1 hopening
        split at h
        case h_1 => cases h
        case h_2 hread =>
          obtain rfl := Option.some.inj h
          exact .joined hscan hopens hread
        case h_3 hread =>
          obtain rfl := Option.some.inj h
          exact .refused hscan hopens hread
  · intro h
    unfold operandDefect?
    cases h with
    | unsplit hscan => rw [hscan]
    | opening hscan hdefect =>
      rw [hscan]
      dsimp only
      rw [openingDefect?_eq_some_iff.2 hdefect]
    | refused hscan hopens hread | joined hscan hopens hread =>
      rw [hscan]
      dsimp only
      rw [openingDefect?_eq_none_iff.2 hopens]
      dsimp only
      rw [hread]

/-- **A text without a defect is a name, a comparator and a right-hand side.**

**Proof sketch.** Such a text is read as a condition, and of the two forms of `Derives.isCondition`
the one with a bracket has a defect: no comparator comes second. -/
theorem operandDefect?_eq_none_iff {text : String} :
    operandDefect? text = none ↔
      ∃ tokens, Token.scan text.toList = .ok tokens ∧ Token.IsCondition tokens := by
  constructor
  · intro h
    unfold operandDefect? at h
    split at h
    case h_1 => cases h
    case h_2 tokens hscan =>
      split at h
      case h_1 => cases h
      case h_2 hopening =>
        refine ⟨tokens, hscan, ?_⟩
        split at h
        case h_1 c hread =>
          obtain ⟨tokens', hscan', hderives⟩ := Rule.ofText_eq_ok_iff.1 hread
          obtain rfl := Except.ok.inj (hscan.symm.trans hscan')
          refine hderives.isCondition.resolve_right ?_
          rintro ⟨bracket, second, rest, rfl, hbracket, hsecond⟩
          have hfirst : bracket.kind ≠ .comparator := by simp [hbracket]
          have hdefect : OpeningDefect (bracket :: second :: rest) _ :=
            .noComparator hfirst hsecond
          rw [openingDefect?_eq_some_iff.2 hdefect] at hopening
          cases hopening
        case h_2 => cases h
        case h_3 => cases h
  · rintro ⟨_, hscan, @⟨name, symbol, right, hname, hsymbol, hright⟩⟩
    obtain ⟨comparator, htext⟩ := Token.exists_comparator_of_mem_scan hscan (by simp) hsymbol
    obtain ⟨value, hvalue⟩ := Token.exists_rightHandSide?_iff.2 hright
    have hread := Rule.ofText_eq_ok_iff.2 ⟨_, hscan, (Derives.single (.single
      (.condition hname hsymbol htext hvalue)) : Derives (.chain .disj) maxNesting _ _)⟩
    have hfirst : name.kind ≠ .comparator := by simp [hname]
    have hopens : Opens [name, symbol, right] := .compared hfirst hsymbol
    unfold operandDefect?
    rw [hscan]
    dsimp only
    rw [openingDefect?_eq_none_iff.2 hopens]
    dsimp only
    rw [hread]

/-! ## Defects of nodes -/

/-- The child on a side. -/
def child? (outline : Outline) : Side → Option Outline
  | .left => outline.left
  | .right => outline.right

/-- `node.HasDefect defect`: taken by itself, the node has the defect. -/
inductive HasDefect (node : Outline) : Defect → Prop where
  /-- A node that is neither an operator nor an operand. -/
  | unknownType (hoperator : node.type ≠ operatorType) (hoperand : node.type ≠ operandType) :
      HasDefect node (.unknownNodeType node.type)
  /-- An operator without a value. -/
  | noConnective (htype : node.type = operatorType) (hvalue : node.value = none) :
      HasDefect node .missingValue
  /-- An operator with a value that is no word for a connective. -/
  | unknownConnective {word : String} (htype : node.type = operatorType)
      (hvalue : node.value = some word) (hword : ∀ op : Connective, word ≠ op.word) :
      HasDefect node (.unknownOperator word)
  /-- An operator without a child on one side. -/
  | missingChild {side : Side} (htype : node.type = operatorType)
      (hchild : node.child? side = none) : HasDefect node (.missingChild side)
  /-- An operand with a child. -/
  | unexpectedChildren {side : Side} (htype : node.type = operandType)
      (hchild : node.child? side ≠ none) : HasDefect node .unexpectedChildren
  /-- An operand without a value. -/
  | noText (htype : node.type = operandType) (hvalue : node.value = none) :
      HasDefect node .missingValue
  /-- An operand with a value that is no condition. -/
  | text {text : String} {defect : Defect} (htype : node.type = operandType)
      (hvalue : node.value = some text) (hdefect : TextDefect text defect) : HasDefect node defect

variable {node : Outline} {defect : Defect}

/-- An operator has a defective value if it has none, or one that is no word for a connective. -/
theorem mem_operatorDefects_iff {value : Option String} :
    defect ∈ operatorDefects value ↔ (value = none ∧ defect = .missingValue) ∨
      ∃ word, value = some word ∧ (∀ op : Connective, word ≠ op.word) ∧
        defect = .unknownOperator word := by
  cases value with
  | none => simp [operatorDefects]
  | some word =>
    have hword : (Connective.ofWord? word).isSome = true ↔ ∃ op : Connective, word = op.word := by
      rw [Option.isSome_iff_exists]
      exact exists_congr fun op => Connective.ofWord?_eq_some_iff
    unfold operatorDefects
    dsimp only
    split_ifs with hsome
    · obtain ⟨op, rfl⟩ := hword.1 hsome
      simp
    · have hnone : ∀ op : Connective, word ≠ op.word := not_exists.1 (mt hword.2 hsome)
      simp [hnone]

/-- An operand has a child too many, no value, or a text with a defect. -/
theorem mem_operandDefects_iff {value : Option String} {hasChildren : Bool} :
    defect ∈ operandDefects value hasChildren ↔
      (hasChildren = true ∧ defect = .unexpectedChildren) ∨
      (value = none ∧ defect = .missingValue) ∨
      ∃ text, value = some text ∧ TextDefect text defect := by
  unfold operandDefects
  rw [List.mem_append]
  refine or_congr (by cases hasChildren <;> simp) ?_
  cases value with
  | none => simp
  | some text => simp [operandDefect?_eq_some_iff]

/-- The defects of an operator are those of its value, and a missing child on each side. -/
theorem hasDefect_operator (htype : node.type = operatorType) :
    node.HasDefect defect ↔ defect ∈ operatorDefects node.value ∨
      ∃ side, node.child? side = none ∧ defect = .missingChild side := by
  have hoperand : node.type ≠ operandType := by
    rw [htype]
    decide
  rw [mem_operatorDefects_iff]
  constructor
  · intro h
    cases h with
    | unknownType hoperator _ => exact absurd htype hoperator
    | noConnective _ hvalue => exact .inl (.inl ⟨hvalue, rfl⟩)
    | unknownConnective _ hvalue hword => exact .inl (.inr ⟨_, hvalue, hword, rfl⟩)
    | missingChild _ hchild => exact .inr ⟨_, hchild, rfl⟩
    | unexpectedChildren h _ | noText h _ | text h _ _ => exact absurd h hoperand
  · rintro ((⟨hvalue, rfl⟩ | ⟨word, hvalue, hword, rfl⟩) | ⟨side, hchild, rfl⟩)
    · exact .noConnective htype hvalue
    · exact .unknownConnective htype hvalue hword
    · exact .missingChild htype hchild

/-- The defects of an operand are those that are found in its value and its children. -/
theorem hasDefect_operand (htype : node.type = operandType) :
    node.HasDefect defect ↔
      defect ∈ operandDefects node.value (node.left.isSome || node.right.isSome) := by
  have hoperator : node.type ≠ operatorType := by
    rw [htype]
    decide
  have hchildren : (node.left.isSome || node.right.isSome) = true ↔
      ∃ side, node.child? side ≠ none := by
    rw [Bool.or_eq_true, ← Option.ne_none_iff_isSome, ← Option.ne_none_iff_isSome]
    constructor
    · exact fun h => h.elim (⟨.left, ·⟩) (⟨.right, ·⟩)
    · rintro ⟨_ | _, h⟩
      · exact .inl h
      · exact .inr h
  rw [mem_operandDefects_iff, hchildren]
  constructor
  · intro h
    cases h with
    | unknownType _ hoperand => exact absurd htype hoperand
    | noConnective h _ | unknownConnective h _ _ | missingChild h _ => exact absurd h hoperator
    | unexpectedChildren _ hchild => exact .inl ⟨⟨_, hchild⟩, rfl⟩
    | noText _ hvalue => exact .inr (.inl ⟨hvalue, rfl⟩)
    | text _ hvalue hdefect => exact .inr (.inr ⟨_, hvalue, hdefect⟩)
  · rintro (⟨⟨side, hchild⟩, rfl⟩ | ⟨hvalue, rfl⟩ | ⟨text, hvalue, hdefect⟩)
    · exact .unexpectedChildren htype hchild
    · exact .noText htype hvalue
    · exact .text htype hvalue hdefect

/-- A node of any other type has its type as its only defect. -/
theorem hasDefect_other (hoperator : node.type ≠ operatorType)
    (hoperand : node.type ≠ operandType) :
    node.HasDefect defect ↔ defect = .unknownNodeType node.type := by
  constructor
  · intro h
    cases h with
    | unknownType => rfl
    | noConnective h _ | unknownConnective h _ _ | missingChild h _ => exact absurd h hoperator
    | unexpectedChildren h _ | noText h _ | text h _ _ => exact absurd h hoperand
  · rintro rfl
    exact .unknownType hoperator hoperand

end Outline

end Criteria

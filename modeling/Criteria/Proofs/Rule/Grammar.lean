import Criteria.Rule.Parse

/-!
# The grammar of rules

What it means for a list of tokens to be a rule, without saying how it is read:

    disjunction := conjunction ( OR conjunction )*
    conjunction := operand ( AND operand )*
    operand     := '(' disjunction ')' | name comparator right-hand-side

A chain of equal connectives is grouped to the left, brackets leave no trace in the tree, and
the right-hand side is a literal or a bare name.

## Main definitions

* `Criteria.Phrase` — the phrases of the grammar; both chains are one phrase with a connective.
* `Criteria.Token.rightHandSide?` — the value that a token is on the right of a comparator.
* `Criteria.Derives` — derivations, with a bound on the nesting of brackets and the tree.

## Main results

* `Criteria.Derives.snoc` — a chain grows by one link at its end, and its tree by one join.
* `Criteria.Derives.snocInduction` — induction on derivations, a chain being one part or a chain
  and a link.
* `Criteria.Derives.mono` — a larger bound on the nesting admits more.
-/

set_option autoImplicit false
set_option relaxedAutoImplicit false

namespace Criteria

/-! ## Phrases -/

/-- The phrases of the grammar. -/
inductive Phrase where
  /-- A condition, or a disjunction in brackets. -/
  | operand
  /-- Phrases that bind tighter, linked by a connective. -/
  | chain (op : Connective)
  deriving DecidableEq

/-- The kind of the tokens that stand for a connective. -/
def Connective.kind : Connective → TokenKind
  | .conj => .conj
  | .disj => .disj

/-- What a connective links: operands make conjunctions, and conjunctions make disjunctions. -/
def Connective.part : Connective → Phrase
  | .conj => .operand
  | .disj => .chain .conj

/-- The value that a token is on the right of a comparator: a literal is its value, or its text
if it has none, and a name is its text. -/
def Token.rightHandSide? (token : Token) : Option Value :=
  match token.kind with
  | .literal => some (token.value.getD (.string token.text))
  | .identifier => some (.string token.text)
  | _ => none

/-! ## Derivations -/

/-- One more part of a chain: the connective in front of it, its tokens and its tree. -/
structure Link where
  /-- The connective. -/
  connective : Token
  /-- The tokens behind it. -/
  tokens : List Token
  /-- The tree of these tokens. -/
  rule : Rule

/-- All tokens of a link. -/
def Link.all (link : Link) : List Token := link.connective :: link.tokens

/-- `Derives phrase depth tokens rule`: the tokens are a phrase of the given sort whose brackets
nest at most `depth` deep, and `rule` is its tree. -/
inductive Derives : Phrase → Nat → List Token → Rule → Prop where
  /-- A name, the symbol of a comparator and a right-hand side. -/
  | condition {depth : Nat} {name symbol right : Token} {comparator : Comparator} {value : Value}
      (name_kind : name.kind = .identifier) (symbol_kind : symbol.kind = .comparator)
      (symbol_text : symbol.text = comparator.symbol)
      (right_value : right.rightHandSide? = some value) :
      Derives .operand depth [name, symbol, right] (.condition ⟨name.text, comparator, value⟩)
  /-- A disjunction in brackets. -/
  | brackets {depth : Nat} {opening closing : Token} {tokens : List Token} {rule : Rule}
      (opening_kind : opening.kind = .opening) (closing_kind : closing.kind = .closing)
      (inside : Derives (.chain .disj) depth tokens rule) :
      Derives .operand (depth + 1) (opening :: (tokens ++ [closing])) rule
  /-- A first part and any number of links, grouped to the left. -/
  | chain {op : Connective} {depth : Nat} {tokens : List Token} {rule : Rule} (links : List Link)
      (first : Derives op.part depth tokens rule)
      (kinds : ∀ link ∈ links, link.connective.kind = op.kind)
      (parts : ∀ link ∈ links, Derives op.part depth link.tokens link.rule) :
      Derives (.chain op) depth (tokens ++ links.flatMap Link.all)
        (links.foldl (fun left link => .join op left link.rule) rule)

namespace Derives

variable {phrase : Phrase} {op : Connective} {depth depth' : Nat} {tokens tokens' : List Token}
  {left rule : Rule}

/-- A part alone is a chain without links. -/
theorem single (h : Derives op.part depth tokens rule) :
    Derives (.chain op) depth tokens rule := by
  have hchain : Derives (.chain op) depth _ _ := Derives.chain [] h (by simp) (by simp)
  rwa [List.flatMap_nil, List.append_nil] at hchain

/-- A chain grows by a link at its end. -/
theorem snoc {connective : Token} (h : Derives (.chain op) depth tokens left)
    (hkind : connective.kind = op.kind) (h' : Derives op.part depth tokens' rule) :
    Derives (.chain op) depth (tokens ++ connective :: tokens') (.join op left rule) := by
  cases h with
  | @chain _ _ tokens first links hfirst hkinds hparts =>
    have hchain := Derives.chain (links ++ [⟨connective, tokens', rule⟩]) hfirst
      (by simpa [or_imp, forall_and] using ⟨hkinds, hkind⟩)
      (by simpa [or_imp, forall_and] using ⟨hparts, h'⟩)
    simpa [Link.all] using hchain

/-- Induction on a derivation, chains being taken apart from their ends: what holds of a chain that
is one part, and is kept by one more link, holds of every chain. -/
@[elab_as_elim]
theorem snocInduction
    {motive : ∀ phrase depth tokens rule, Derives phrase depth tokens rule → Prop}
    (condition : ∀ {depth : Nat} {name symbol right : Token} {comparator : Comparator}
      {value : Value} (name_kind : name.kind = .identifier)
      (symbol_kind : symbol.kind = .comparator) (symbol_text : symbol.text = comparator.symbol)
      (right_value : right.rightHandSide? = some value),
      motive .operand depth _ _ (.condition name_kind symbol_kind symbol_text right_value))
    (brackets : ∀ {depth : Nat} {opening closing : Token} {tokens : List Token} {rule : Rule}
      (opening_kind : opening.kind = .opening) (closing_kind : closing.kind = .closing)
      (inside : Derives (.chain .disj) depth tokens rule),
      motive _ _ _ _ inside → motive _ _ _ _ (.brackets opening_kind closing_kind inside))
    (single : ∀ {op : Connective} {depth : Nat} {tokens : List Token} {rule : Rule}
      (part : Derives op.part depth tokens rule),
      motive _ _ _ _ part → motive (.chain op) _ _ _ part.single)
    (snoc : ∀ {op : Connective} {depth : Nat} {tokens tokens' : List Token} {connective : Token}
      {left rule : Rule} (chain : Derives (.chain op) depth tokens left)
      (connective_kind : connective.kind = op.kind) (part : Derives op.part depth tokens' rule),
      motive _ _ _ _ chain → motive _ _ _ _ part → motive _ _ _ _ (chain.snoc connective_kind part))
    (h : Derives phrase depth tokens rule) : motive _ _ _ _ h := by
  induction h with
  | condition hname hsymbol htext hright => exact condition hname hsymbol htext hright
  | brackets hopening hclosing hinside ih => exact brackets hopening hclosing hinside ih
  | @chain op depth tokens rule links hfirst hkinds hparts ihfirst ihparts =>
    have hlinks : ∀ (links : List Link) (tokens : List Token) (left : Rule)
        (hleft : Derives (.chain op) depth tokens left), motive _ _ _ _ hleft →
        (∀ link ∈ links, link.connective.kind = op.kind) →
        (∀ link ∈ links, ∃ hpart : Derives op.part depth link.tokens link.rule,
          motive _ _ _ _ hpart) →
        ∃ hchain : Derives (.chain op) depth (tokens ++ links.flatMap Link.all)
          (links.foldl (fun left link => .join op left link.rule) left),
          motive _ _ _ _ hchain := by
      intro links
      induction links with
      | nil =>
        intro tokens left hleft ihleft _ _
        rw [List.flatMap_nil, List.append_nil]
        exact ⟨hleft, ihleft⟩
      | cons link links ih =>
        intro tokens left hleft ihleft hkinds hparts
        obtain ⟨hkind, hkinds⟩ := List.forall_mem_cons.1 hkinds
        obtain ⟨⟨hpart, ihpart⟩, hparts⟩ := List.forall_mem_cons.1 hparts
        rw [List.flatMap_cons, ← List.append_assoc]
        exact ih _ _ (hleft.snoc hkind hpart) (snoc hleft hkind hpart ihleft ihpart) hkinds hparts
    obtain ⟨_, hchain⟩ := hlinks links tokens rule hfirst.single (single hfirst ihfirst) hkinds
      fun link hlink => ⟨hparts link hlink, ihparts link hlink⟩
    exact hchain

/-- What nests its brackets at most `depth` deep nests them at most `depth'` deep for every
larger `depth'`. -/
theorem mono (h : Derives phrase depth tokens rule) (hle : depth ≤ depth') :
    Derives phrase depth' tokens rule := by
  induction h using snocInduction generalizing depth' with
  | condition hname hsymbol htext hright => exact .condition hname hsymbol htext hright
  | brackets hopening hclosing _ ih =>
    obtain ⟨larger, rfl⟩ : ∃ larger, depth' = larger + 1 := ⟨depth' - 1, by omega⟩
    exact .brackets hopening hclosing (ih (by omega))
  | single _ ih => exact (ih hle).single
  | snoc _ hkind _ ihleft ihright => exact (ihleft hle).snoc hkind (ihright hle)

end Derives

end Criteria

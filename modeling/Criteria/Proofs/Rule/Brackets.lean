import Criteria.Proofs.Rule.Spelling

/-!
# How deep tokens nest

The nesting of tokens is read off their brackets alone. A derivation needs just the depth to which
its tokens nest, so tokens that nest too deep are no rule, whatever else they are.

## Main definitions

* `Criteria.Token.nesting` — how many brackets are open at one time.

## Main results

* `Criteria.Derives.nesting_append` — a phrase closes all brackets that it opens.
* `Criteria.Derives.nesting_le`, `Criteria.Derives.tighten` — the depth of a derivation is enough if
  and only if its tokens nest no deeper.
* `Criteria.Derives.bracketDepth_le_nesting` — printing needs the fewest brackets, by this measure.
* `Criteria.Rule.not_reads_of_deep` — a clean rule that nests too deep is not read from its text, as
  no rule at all.
-/

set_option autoImplicit false
set_option relaxedAutoImplicit false

namespace Criteria

/-- How many brackets are open at the same time, at most, that are not open before the tokens. -/
def Token.nesting : List Token → Nat
  | [] => 0
  | token :: rest =>
    match token.kind with
    | .opening => nesting rest + 1
    | .closing => nesting rest - 1
    | _ => nesting rest

namespace Token

variable {token : Token}

theorem nesting_opening (h : token.kind = .opening) (rest : List Token) :
    nesting (token :: rest) = nesting rest + 1 := by
  simp [nesting, h]

theorem nesting_closing (h : token.kind = .closing) (rest : List Token) :
    nesting (token :: rest) = nesting rest - 1 := by
  simp [nesting, h]

/-- A token that is no bracket does not count. -/
theorem nesting_cons (hopening : token.kind ≠ .opening) (hclosing : token.kind ≠ .closing)
    (rest : List Token) : nesting (token :: rest) = nesting rest := by
  cases hkind : token.kind <;> simp_all [nesting]

/-- A right-hand side is no bracket. -/
theorem nesting_rightHandSide {value : Value} (h : token.rightHandSide? = some value)
    (rest : List Token) : nesting (token :: rest) = nesting rest := by
  unfold rightHandSide? at h
  cases hkind : token.kind <;> simp_all [nesting]

/-- A connective is no bracket. -/
theorem nesting_connective {op : Connective} (h : token.kind = op.kind) (rest : List Token) :
    nesting (token :: rest) = nesting rest := by
  cases op <;> simp_all [nesting, Connective.kind]

/-- Conditions have no brackets. -/
theorem nesting_condition {name symbol right : Token} {value : Value}
    (hname : name.kind = .identifier) (hsymbol : symbol.kind = .comparator)
    (hright : right.rightHandSide? = some value) (rest : List Token) :
    nesting (name :: symbol :: right :: rest) = nesting rest := by
  rw [nesting_cons (by simp [hname]) (by simp [hname]),
    nesting_cons (by simp [hsymbol]) (by simp [hsymbol]), nesting_rightHandSide hright]

end Token

open Token (nesting)

namespace Derives

variable {phrase : Phrase} {depth : Nat} {tokens : List Token} {rule : Rule}

/-- **A phrase closes all brackets that it opens,** so that tokens behind it nest as they do alone.

**Proof sketch.** Induction on the derivation, for any tokens behind the phrase. Inside brackets
these are the closing bracket and what follows it. -/
theorem nesting_append (h : Derives phrase depth tokens rule) (rest : List Token) :
    nesting (tokens ++ rest) = max (nesting tokens) (nesting rest) := by
  induction h using snocInduction generalizing rest with
  | @condition _ name symbol right _ _ hname hsymbol _ hright =>
    have hcondition : ∀ rest, nesting ([name, symbol, right] ++ rest) = nesting rest :=
      Token.nesting_condition hname hsymbol hright
    have hnone : nesting [name, symbol, right] = 0 := hcondition []
    rw [hcondition, hnone, Nat.zero_max]
  | @brackets _ opening closing tokens _ hopening hclosing _ ih =>
    rw [List.cons_append, List.append_assoc, List.singleton_append,
      Token.nesting_opening hopening, Token.nesting_opening hopening, ih, ih,
      Token.nesting_closing hclosing, Token.nesting_closing hclosing]
    have hnil : nesting [] = 0 := rfl
    omega
  | single _ ih => exact ih rest
  | snoc _ hkind _ ihleft ihright =>
    rw [List.append_assoc, List.cons_append, ihleft, ihleft, Token.nesting_connective hkind,
      Token.nesting_connective hkind, ihright, max_assoc]

/-- Brackets nest one level deeper than what is in them. -/
theorem nesting_brackets {opening closing : Token} (h : Derives phrase depth tokens rule)
    (hopening : opening.kind = .opening) (hclosing : closing.kind = .closing) :
    nesting (opening :: (tokens ++ [closing])) = nesting tokens + 1 := by
  rw [Token.nesting_opening hopening, h.nesting_append, Token.nesting_closing hclosing]
  have hnil : nesting [] = 0 := rfl
  omega

/-- A chain nests as deep as what is in front of its last connective, or as what is behind it. -/
theorem nesting_snoc {op : Connective} {connective : Token} {tokens' : List Token}
    (h : Derives phrase depth tokens rule) (hkind : connective.kind = op.kind) :
    nesting (tokens ++ connective :: tokens') = max (nesting tokens) (nesting tokens') := by
  rw [h.nesting_append, Token.nesting_connective hkind]

/-- What is derived nests no deeper than the derivation allows. -/
theorem nesting_le (h : Derives phrase depth tokens rule) : nesting tokens ≤ depth := by
  induction h using snocInduction with
  | @condition depth name symbol right _ _ hname hsymbol _ hright =>
    rw [Token.nesting_condition hname hsymbol hright]
    exact Nat.zero_le depth
  | brackets hopening hclosing hinside ih =>
    rw [hinside.nesting_brackets hopening hclosing]
    exact Nat.succ_le_succ ih
  | single _ ih => exact ih
  | snoc hchain hkind _ ihleft ihright =>
    rw [hchain.nesting_snoc hkind]
    exact Nat.max_le.2 ⟨ihleft, ihright⟩

/-- A derivation needs no more depth than its tokens nest. -/
theorem tighten (h : Derives phrase depth tokens rule) :
    Derives phrase (nesting tokens) tokens rule := by
  induction h using snocInduction with
  | condition hname hsymbol htext hright => exact .condition hname hsymbol htext hright
  | brackets hopening hclosing hinside ih =>
    rw [hinside.nesting_brackets hopening hclosing]
    exact .brackets hopening hclosing ih
  | single _ ih => exact ih.single
  | snoc hchain hkind _ ihleft ihright =>
    rw [hchain.nesting_snoc hkind]
    exact (ihleft.mono (Nat.le_max_left _ _)).snoc hkind (ihright.mono (Nat.le_max_right _ _))

/-- **Printing needs the fewest brackets,** in terms of the tokens: whatever is read as a rule nests
at least as deep as its text. -/
theorem bracketDepth_le_nesting (h : Derives phrase depth tokens rule) :
    rule.bracketDepth ≤ nesting tokens :=
  Nat.le_trans (Nat.le_add_right _ _) h.tighten.depthAs_le

end Derives

/-- **A rule that nests too deep is not read from its text,** and no other rule is.

**Proof sketch.** Whatever is read nests at most `maxNesting` deep. But the tokens of the text are
those of the rule, and nest as deep as the rule does. -/
theorem Rule.not_reads_of_deep {rule rule' : Rule} (hclean : rule.Clean)
    (hdeep : maxNesting < rule.bracketDepth) : ofText rule.text ≠ .ok rule' := by
  intro hread
  obtain ⟨tokens, hscan, hderives⟩ := ofText_eq_ok_iff.1 hread
  obtain ⟨tokens', hscan', hderives'⟩ := spells_text hclean
  obtain rfl : tokens = tokens' := Except.ok.inj (hscan.symm.trans hscan')
  have hle := hderives.nesting_le
  have hge := hderives'.bracketDepth_le_nesting
  omega

end Criteria

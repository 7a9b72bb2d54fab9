import Criteria.Proofs.Rule.Grammar
import Mathlib.Data.Set.Subsingleton

/-!
# Reading follows the grammar

`Rule.ofTokens` keeps a level for each open bracket and nothing of the tokens behind it. Here
the levels are given their meaning, as the derivations that they stand for, and reading is shown
to accept the derivable lists of tokens and no others.

## Main definitions

* `Criteria.Parse.Waits` — the tokens in front of the right side of a connective.
* `Criteria.Parse.Level.Holds`, `Criteria.Parse.Phase.Holds`, `Criteria.Parse.OuterHold` — the
  tokens that a level, a phase and the levels around stand for.
* `Criteria.Parse.State.Holds` — the tokens that lead to a state.

## Main results

* `Criteria.Parse.State.Holds.step` — a token keeps the meaning of the state.
* `Criteria.Parse.derives_of_run` — what is read has a derivation.
* `Criteria.Parse.run_of_derives` — what has a derivation is read as its tree.
* `Criteria.Rule.ofTokens_eq_ok_iff_derives` — both together: reading is the grammar.
-/

set_option autoImplicit false
set_option relaxedAutoImplicit false

namespace Criteria

namespace Parse

/-! ## The meaning of states -/

/-- The tokens in front of the right side of `op`, `left` being the tree of its left side: none
if nothing waits, otherwise the left side and the connective. -/
def Waits (op : Connective) (depth : Nat) : Option Rule → List Token → Prop
  | none, tokens => tokens = []
  | some left, tokens => ∃ before connective, tokens = before ++ [connective] ∧
      connective.kind = op.kind ∧ Derives (.chain op) depth before left

/-- A rule as the right side of a chain, if one waits. -/
def joinWaiting (op : Connective) : Option Rule → Rule → Rule
  | none, rule => rule
  | some left, rule => .join op left rule

/-- The tokens that a level stands for before its next operand, brackets around that operand
nesting at most `depth` deep. -/
def Level.Holds (level : Level) (depth : Nat) (tokens : List Token) : Prop :=
  ∃ disjunct conjunct, tokens = disjunct ++ conjunct ∧
    Waits .disj depth level.disjunct disjunct ∧ Waits .conj depth level.conjunct conjunct

/-- The tokens that the levels around the innermost one stand for, the opening brackets
included, if `depth` more brackets may be opened. -/
def OuterHold : List Level → Nat → List Token → Prop
  | [], depth, tokens => depth = maxNesting ∧ tokens = []
  | level :: outer, depth, tokens => ∃ before here opening,
      tokens = before ++ here ++ [opening] ∧ opening.kind = .opening ∧
        OuterHold outer (depth + 1) before ∧ level.Holds (depth + 1) here

/-- The tokens that a level stands for together with what the next token continues. -/
def Phase.Holds (level : Level) (depth : Nat) : Phase → List Token → Prop
  | .operand, tokens => level.Holds depth tokens
  | .comparator name, tokens => ∃ before token, tokens = before ++ [token] ∧
      level.Holds depth before ∧ token.kind = .identifier ∧ token.text = name
  | .literal name order, tokens => ∃ before token symbol,
      tokens = before ++ [token, symbol] ∧ level.Holds depth before ∧
        token.kind = .identifier ∧ token.text = name ∧
        symbol.kind = .comparator ∧ symbol.text = order.symbol
  | .connective conjunction, tokens => ∃ before conjuncts, tokens = before ++ conjuncts ∧
      Waits .disj depth level.disjunct before ∧ Derives (.chain .conj) depth conjuncts conjunction

/-- The tokens that lead to a state. -/
def State.Holds (state : State) (tokens : List Token) : Prop :=
  ∃ depth before here, tokens = before ++ here ∧ OuterHold state.outer depth before ∧
    state.phase.Holds state.level depth here

/-! ## One token -/

variable {op : Connective} {depth : Nat} {level : Level} {outer : List Level}
  {tokens tokens' before here : List Token} {waiting : Option Rule} {rule : Rule}

/-- Nothing waits at a fresh level. -/
theorem Level.holds_fresh (depth : Nat) : Level.fresh.Holds depth [] := ⟨[], [], rfl, rfl, rfl⟩

/-- As many levels are open as brackets have been spent. -/
theorem OuterHold.add_length (h : OuterHold outer depth tokens) :
    depth + outer.length = maxNesting := by
  induction outer generalizing depth tokens with
  | nil => exact h.1
  | cons level outer ih =>
    obtain ⟨before, here, opening, rfl, -, hbefore, -⟩ := h
    have hlength := ih hbefore
    rw [List.length_cons]
    omega

/-- A part behind a connective that waits completes the chain. -/
theorem Waits.derives (h : Waits op depth waiting tokens)
    (h' : Derives op.part depth tokens' rule) :
    Derives (.chain op) depth (tokens ++ tokens') (joinWaiting op waiting rule) := by
  cases waiting with
  | none =>
    obtain rfl := h
    exact h'.single
  | some left =>
    obtain ⟨before, connective, rfl, hkind, hleft⟩ := h
    simpa [joinWaiting] using hleft.snoc hkind h'

/-- A level conjoins an operand with what waits for it. -/
theorem Level.conjoin_eq (level : Level) (rule : Rule) :
    level.conjoin rule = joinWaiting .conj level.conjunct rule := by
  unfold Level.conjoin joinWaiting
  cases level.conjunct <;> rfl

/-- A level disjoins a conjunction with what waits for it. -/
theorem Level.disjoin_eq (level : Level) (rule : Rule) :
    level.disjoin rule = joinWaiting .disj level.disjunct rule := by
  unfold Level.disjoin joinWaiting
  cases level.disjunct <;> rfl

/-- An operand completes the conjunction of its level. -/
theorem State.Holds.complete (houter : OuterHold outer depth before)
    (hlevel : level.Holds depth here) (hrule : Derives .operand depth tokens rule) :
    (State.complete level outer rule).Holds (before ++ here ++ tokens) := by
  obtain ⟨disjunct, conjunct, rfl, hdisjunct, hconjunct⟩ := hlevel
  refine ⟨depth, before, disjunct ++ (conjunct ++ tokens), by simp, houter, ?_⟩
  have hconjunction := hconjunct.derives hrule
  rw [← Level.conjoin_eq] at hconjunction
  exact ⟨disjunct, conjunct ++ tokens, rfl, hdisjunct, hconjunction⟩

/-- A right-hand side completes a condition. -/
theorem State.Holds.right {name : String} {comparator : Comparator} {value : Value} {token : Token}
    (houter : OuterHold outer depth before)
    (hphase : (Phase.literal name comparator).Holds level depth here)
    (hvalue : token.rightHandSide? = some value) :
    (State.complete level outer (.condition ⟨name, comparator, value⟩)).Holds
      (before ++ here ++ [token]) := by
  obtain ⟨start, nameToken, symbol, rfl, hstart, hnameKind, rfl, hsymbolKind, hsymbol⟩ := hphase
  have hcondition : Derives .operand depth _ _ :=
    .condition hnameKind hsymbolKind hsymbol hvalue
  simpa using State.Holds.complete houter hstart hcondition

/-- A token keeps the meaning of the state: it belongs to the tokens that lead to the next one.

**Proof sketch.** By what the state continues and the kind of the token, as in `Parse.step`. A
bracket opens a level that spends one unit of depth; a right-hand side and a closing bracket
each complete an operand; a connective turns the finished chain into one that waits. -/
theorem State.Holds.step {state state' : State} {token : Token} (h : state.Holds tokens)
    (hstep : Parse.step state token = .ok state') : state'.Holds (tokens ++ [token]) := by
  obtain ⟨level, outer, phase⟩ := state
  obtain ⟨depth, before, here, rfl, houter, hhere⟩ := h
  unfold Parse.step at hstep
  split at hstep
  case h_1 hphase hkind =>
    obtain rfl : phase = .operand := hphase
    split at hstep
    case isTrue hroom =>
      obtain rfl := Except.ok.inj hstep
      have hlength := houter.add_length
      obtain ⟨room, rfl⟩ : ∃ room, depth = room + 1 := ⟨depth - 1, by dsimp at *; omega⟩
      exact ⟨room, before ++ here ++ [token], [], by simp,
        ⟨before, here, token, rfl, hkind, houter, hhere⟩, Level.holds_fresh room⟩
    case isFalse => cases hstep
  case h_2 hphase hkind =>
    obtain rfl : phase = .operand := hphase
    obtain rfl := Except.ok.inj hstep
    exact ⟨depth, before, here ++ [token], by simp, houter, here, token, rfl, hhere, hkind, rfl⟩
  case h_3 name hphase hkind =>
    obtain rfl : phase = .comparator name := hphase
    obtain ⟨start, nameToken, rfl, hstart, hnameKind, hname⟩ := hhere
    split at hstep
    case h_1 comparator hsymbol =>
      obtain rfl := Except.ok.inj hstep
      exact ⟨depth, before, start ++ [nameToken, token], by simp, houter, start, nameToken, token,
        rfl, hstart, hnameKind, hname, hkind, Comparator.ofSymbol?_eq_some_iff.1 hsymbol⟩
    case h_2 => cases hstep
  case h_4 name comparator hphase hkind =>
    obtain rfl : phase = .literal name comparator := hphase
    obtain rfl := Except.ok.inj hstep
    exact State.Holds.right houter hhere (by simp [Token.rightHandSide?, hkind])
  case h_5 name comparator hphase hkind =>
    obtain rfl : phase = .literal name comparator := hphase
    obtain rfl := Except.ok.inj hstep
    exact State.Holds.right houter hhere (by simp [Token.rightHandSide?, hkind])
  case h_6 conjunction hphase hkind =>
    obtain rfl : phase = .connective conjunction := hphase
    obtain ⟨disjunct, conjuncts, rfl, hdisjunct, hconjuncts⟩ := hhere
    obtain rfl := Except.ok.inj hstep
    exact ⟨depth, before, disjunct ++ (conjuncts ++ [token]), by simp, houter, disjunct,
      conjuncts ++ [token], rfl, hdisjunct, conjuncts, token, rfl, hkind, hconjuncts⟩
  case h_7 conjunction hphase hkind =>
    obtain rfl : phase = .connective conjunction := hphase
    obtain ⟨disjunct, conjuncts, rfl, hdisjunct, hconjuncts⟩ := hhere
    obtain rfl := Except.ok.inj hstep
    have hdisjunction := hdisjunct.derives hconjuncts
    rw [← Level.disjoin_eq] at hdisjunction
    exact ⟨depth, before, disjunct ++ conjuncts ++ [token], by simp, houter,
      disjunct ++ conjuncts ++ [token], [], by simp,
      ⟨disjunct ++ conjuncts, token, rfl, hkind, hdisjunction⟩, rfl⟩
  case h_8 conjunction hphase hkind =>
    obtain rfl : phase = .connective conjunction := hphase
    obtain ⟨disjunct, conjuncts, rfl, hdisjunct, hconjuncts⟩ := hhere
    split at hstep
    case h_1 => cases hstep
    case h_2 around outer houtside =>
      obtain rfl := houtside
      obtain rfl := Except.ok.inj hstep
      obtain ⟨start, inside, opening, rfl, hopening, hstart, hinside⟩ := houter
      have hdisjunction := hdisjunct.derives hconjuncts
      rw [← Level.disjoin_eq] at hdisjunction
      simpa using State.Holds.complete hstart hinside
        (Derives.brackets hopening hkind hdisjunction)
  case h_9 => cases hstep

/-! ## Whole runs -/

/-- Tokens keep the meaning of the state. -/
theorem State.Holds.foldlM {state state' : State} (h : state.Holds tokens)
    (hrun : tokens'.foldlM Parse.step state = .ok state') : state'.Holds (tokens ++ tokens') := by
  induction tokens' generalizing state tokens with
  | nil =>
    obtain rfl := Except.ok.inj hrun
    rwa [List.append_nil]
  | cons token tokens' ih =>
    rw [List.foldlM_cons] at hrun
    cases hstep : Parse.step state token with
    | error obstacle =>
      rw [hstep] at hrun
      cases hrun
    | ok next =>
      rw [hstep] at hrun
      have hnext := ih (h.step hstep) hrun
      rwa [List.append_assoc] at hnext

/-- The state before the first token stands for no tokens. -/
theorem State.holds_start : State.start.Holds [] :=
  ⟨maxNesting, [], [], rfl, ⟨rfl, rfl⟩, Level.holds_fresh maxNesting⟩

/-- **What is read has a derivation.**

**Proof sketch.** The state at the end stands for all tokens (`State.Holds.foldlM`). Reading
ends well only in a conjunction at the outermost level, which completes a disjunction. -/
theorem derives_of_run (h : run tokens = .ok rule) :
    Derives (.chain .disj) maxNesting tokens rule := by
  unfold run at h
  cases hrun : tokens.foldlM Parse.step .start with
  | error obstacle =>
    rw [hrun] at h
    cases h
  | ok state =>
    rw [hrun] at h
    have hstate := State.holds_start.foldlM hrun
    rw [List.nil_append] at hstate
    obtain ⟨level, outer, phase⟩ := state
    obtain ⟨depth, before, here, rfl, houter, hhere⟩ := hstate
    change finish ⟨level, outer, phase⟩ = .ok rule at h
    unfold finish at h
    split at h
    case h_1 conjunction hphase houtermost =>
      obtain rfl : phase = .connective conjunction := hphase
      obtain rfl : outer = [] := houtermost
      obtain rfl := Except.ok.inj h
      obtain ⟨rfl, rfl⟩ := houter
      obtain ⟨disjunct, conjuncts, rfl, hdisjunct, hconjuncts⟩ := hhere
      rw [Level.disjoin_eq]
      exact hdisjunct.derives hconjuncts
    case h_2 => cases h

/-! ## Reading derivations -/

/-- Tokens are read one after another. -/
theorem foldlM_step_cons {state next : State} {token : Token}
    (h : Parse.step state token = .ok next) :
    (token :: tokens).foldlM Parse.step state = tokens.foldlM Parse.step next := by
  rw [List.foldlM_cons, h]
  rfl

/-- Lists of tokens are read one after another. -/
theorem foldlM_step_append {state next : State}
    (h : tokens.foldlM Parse.step state = .ok next) :
    (tokens ++ tokens').foldlM Parse.step state = tokens'.foldlM Parse.step next := by
  rw [List.foldlM_append, h]
  rfl

/-- A connective turns the chain in front of it into one that waits. -/
theorem step_connective {token : Token} (hkind : token.kind = op.kind) (conjunction : Rule) :
    Parse.step ⟨level, outer, .connective conjunction⟩ token = .ok ⟨match op with
      | .conj => { level with conjunct := some conjunction }
      | .disj => ⟨some (joinWaiting .disj level.disjunct conjunction), none⟩, outer, .operand⟩ := by
  cases op <;> simp [Parse.step, hkind, Connective.kind, Level.disjoin_eq]

/-- A name begins a condition. -/
theorem step_name {token : Token} (hkind : token.kind = .identifier) :
    Parse.step ⟨level, outer, .operand⟩ token = .ok ⟨level, outer, .comparator token.text⟩ := by
  simp [Parse.step, hkind]

/-- The symbol of a comparator continues a condition behind its name. -/
theorem step_symbol {token : Token} {comparator : Comparator} (hkind : token.kind = .comparator)
    (htext : token.text = comparator.symbol) (name : String) :
    Parse.step ⟨level, outer, .comparator name⟩ token =
      .ok ⟨level, outer, .literal name comparator⟩ := by
  simp [Parse.step, hkind, Comparator.ofSymbol?_eq_some_iff.2 htext]

/-- A right-hand side completes a condition. -/
theorem step_rightHandSide {token : Token} {name : String} {comparator : Comparator}
    {value : Value} (h : token.rightHandSide? = some value) :
    Parse.step ⟨level, outer, .literal name comparator⟩ token =
      .ok (.complete level outer (.condition ⟨name, comparator, value⟩)) := by
  unfold Token.rightHandSide? at h
  cases hkind : token.kind <;> simp [hkind] at h <;> simp [Parse.step, hkind, h]

/-- A closing bracket completes an operand of the level around. -/
theorem step_closing {token : Token} (hkind : token.kind = .closing) (around : Level)
    (conjunction : Rule) :
    Parse.step ⟨level, around :: outer, .connective conjunction⟩ token =
      .ok (.complete around outer (joinWaiting .disj level.disjunct conjunction)) := by
  simp [Parse.step, hkind, Level.disjoin_eq]

/-- What may wait at the level where a phrase begins: no chain of its kind is under way. -/
def Phrase.MayBegin (level : Level) : Phrase → Prop
  | .operand => True
  | .chain .conj => level.conjunct = none
  | .chain .disj => level = .fresh

/-- The states behind a phrase with the given tree that began at `level`. -/
def Phrase.Ends (level : Level) (outer : List Level) : Phrase → Rule → State → Prop
  | .operand, rule, state => state = .complete level outer rule
  | .chain .conj, rule, state =>
      state = ⟨{ level with conjunct := none }, outer, .connective rule⟩
  | .chain .disj, rule, state => ∃ disjunct conjunction,
      state = ⟨⟨disjunct, none⟩, outer, .connective conjunction⟩ ∧
        joinWaiting .disj disjunct conjunction = rule

/-- The tokens are read as the phrase with the given tree, wherever it may begin, inside the
levels `outer`. -/
def ReadsAs (outer : List Level) (phrase : Phrase) (tokens : List Token) (rule : Rule) : Prop :=
  ∀ level, Phrase.MayBegin level phrase → ∃ state,
    tokens.foldlM Parse.step ⟨level, outer, .operand⟩ = .ok state ∧
      Phrase.Ends level outer phrase rule state

/-- Where a chain may begin, its first part may. -/
theorem Phrase.MayBegin.part (h : Phrase.MayBegin level (.chain op)) :
    Phrase.MayBegin level op.part := by
  cases op with
  | conj => trivial
  | disj =>
    obtain rfl : level = .fresh := h
    rfl

/-- Behind the first part of a chain the chain has been read that far. -/
theorem Phrase.Ends.single {state : State} (hbegin : Phrase.MayBegin level (.chain op))
    (h : Phrase.Ends level outer op.part rule state) :
    Phrase.Ends level outer (.chain op) rule state := by
  cases op with
  | conj =>
    have hnone : level.conjunct = none := hbegin
    obtain rfl : state = .complete level outer rule := h
    simp [Phrase.Ends, State.complete, Level.conjoin_eq, hnone, joinWaiting]
  | disj =>
    obtain rfl : level = .fresh := hbegin
    exact ⟨none, rule, h, rfl⟩

/-- A connective and a part are read behind a chain, and the chain goes on. -/
theorem Phrase.Ends.snoc {state : State} {left : Rule} {connective : Token}
    (h : Phrase.Ends level outer (.chain op) left state) (hkind : connective.kind = op.kind)
    (hpart : ReadsAs outer op.part tokens rule) :
    ∃ state', (connective :: tokens).foldlM Parse.step state = .ok state' ∧
      Phrase.Ends level outer (.chain op) (.join op left rule) state' := by
  cases op with
  | conj =>
    obtain rfl : state = ⟨{ level with conjunct := none }, outer, .connective left⟩ := h
    obtain ⟨state', hread, hends⟩ := hpart { level with conjunct := some left } trivial
    refine ⟨state', ?_, hends⟩
    rw [foldlM_step_cons (step_connective hkind left)]
    exact hread
  | disj =>
    obtain ⟨disjunct, conjunction, rfl, rfl⟩ := h
    obtain ⟨state', hread, rfl⟩ := hpart ⟨some (joinWaiting .disj disjunct conjunction), none⟩ rfl
    refine ⟨_, ?_, some (joinWaiting .disj disjunct conjunction), rule, rfl, rfl⟩
    rw [foldlM_step_cons (step_connective hkind conjunction)]
    exact hread

/-- Every derivation is read as its tree, if there is room for its brackets.

**Proof sketch.** Induction on the derivation. A condition takes three steps. Brackets open a
fresh level, inside which the induction hypothesis reads a disjunction, and close it. A chain
begins where its first part does, and each link is read behind what is there of it. -/
theorem readsAs_of_derives {phrase : Phrase} (h : Derives phrase depth tokens rule)
    (hroom : depth + outer.length ≤ maxNesting) : ReadsAs outer phrase tokens rule := by
  induction h using Derives.snocInduction generalizing outer with
  | @condition _ name symbol right comparator value hname hsymbol htext hright =>
    intro level _
    refine ⟨_, ?_, rfl⟩
    rw [foldlM_step_cons (step_name hname), foldlM_step_cons (step_symbol hsymbol htext name.text),
      foldlM_step_cons (step_rightHandSide hright)]
    rfl
  | @brackets depth opening closing tokens rule hopening hclosing _ ih =>
    intro level _
    refine ⟨_, ?_, rfl⟩
    have hlength : outer.length < maxNesting := by omega
    have hstepOpening : Parse.step ⟨level, outer, .operand⟩ opening =
        .ok ⟨.fresh, level :: outer, .operand⟩ := by
      simp [Parse.step, hopening, hlength]
    have hinside : ReadsAs (level :: outer) (.chain .disj) tokens rule :=
      ih (by rw [List.length_cons]; omega)
    obtain ⟨state, hread, disjunct, conjunction, rfl, rfl⟩ := hinside .fresh rfl
    rw [foldlM_step_cons hstepOpening, foldlM_step_append hread,
      foldlM_step_cons (step_closing hclosing level conjunction)]
    rfl
  | single _ ih =>
    intro level hbegin
    obtain ⟨state, hread, hends⟩ := ih hroom level hbegin.part
    exact ⟨state, hread, hends.single hbegin⟩
  | snoc _ hkind _ ihleft ihright =>
    intro level hbegin
    obtain ⟨next, hnext, hends⟩ := ihleft hroom level hbegin
    obtain ⟨state, hread, hends'⟩ := hends.snoc hkind (ihright hroom)
    refine ⟨state, ?_, hends'⟩
    rw [foldlM_step_append hnext]
    exact hread

/-- **What has a derivation is read as its tree.** -/
theorem run_of_derives (h : Derives (.chain .disj) maxNesting tokens rule) :
    run tokens = .ok rule := by
  have hreads : ReadsAs [] (.chain .disj) tokens rule := readsAs_of_derives h (by simp)
  obtain ⟨state, hread, disjunct, conjunction, rfl, rfl⟩ := hreads .fresh rfl
  have hstart : tokens.foldlM Parse.step .start =
      .ok ⟨⟨disjunct, none⟩, [], .connective conjunction⟩ := hread
  unfold run
  rw [hstart]
  exact congrArg Except.ok (Level.disjoin_eq ⟨disjunct, none⟩ conjunction)

/-- Reading gives a rule exactly where the grammar derives it. -/
theorem run_eq_ok_iff : run tokens = .ok rule ↔ Derives (.chain .disj) maxNesting tokens rule :=
  ⟨derives_of_run, run_of_derives⟩

end Parse

namespace Rule

/-- Where the text ends matters only for what is refused. -/
theorem ofTokensUpTo_eq_ok_iff {stop : Nat} {tokens : List Token} {rule : Rule} :
    ofTokensUpTo stop tokens = .ok rule ↔ Parse.run tokens = .ok rule := by
  unfold ofTokensUpTo
  cases Parse.run tokens <;> simp [Except.mapError]

/-- **Reading is the grammar.** Tokens of any kinds, texts, spans and values are read as a rule
exactly if they are a disjunction whose brackets nest at most `maxNesting` deep, and the rule is
the tree of its derivation; so there is at most one tree. -/
theorem ofTokens_eq_ok_iff_derives (tokens : List Token) :
    (∀ rule, ofTokens tokens = .ok rule ↔ Derives (.chain .disj) maxNesting tokens rule) ∧
      { rule | Derives (.chain .disj) maxNesting tokens rule }.Subsingleton := by
  have hiff : ∀ rule, ofTokens tokens = .ok rule ↔
      Derives (.chain .disj) maxNesting tokens rule := fun rule =>
    ofTokensUpTo_eq_ok_iff.trans Parse.run_eq_ok_iff
  refine ⟨hiff, ?_⟩
  intro rule hrule rule' hrule'
  have hok := ((hiff rule).2 hrule).symm.trans ((hiff rule').2 hrule')
  exact Except.ok.inj hok

end Rule

end Criteria

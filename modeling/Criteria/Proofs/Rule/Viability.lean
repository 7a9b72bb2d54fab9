import Criteria.Proofs.Rule.Parse

/-!
# Where reading stops

Tokens that are no rule are refused at the first of them that no rule can have in its place, or at
their end if they are no more than the start of a rule.

## Main definitions

* `Criteria.Token.Viable` — tokens that are the start of a rule.
* `Criteria.Parse.State.completion` — tokens that make a rule of what has been read.

## Main results

* `Criteria.Parse.exists_foldlM_eq_error` — reading stops between a state and a token.
* `Criteria.Parse.viable_of_foldlM` — whatever has been read without an obstacle is viable.
* `Criteria.Parse.not_viable_of_step` — with the token that is an obstacle it is not.
* `Criteria.Rule.refused_at_first_impossible` — where the fault of a refusal points to.
-/

set_option autoImplicit false
set_option relaxedAutoImplicit false

namespace Criteria

/-- Tokens are viable if more tokens can follow with which they are read as a rule. -/
def Token.Viable (tokens : List Token) : Prop :=
  ∃ more rule, Rule.ofTokens (tokens ++ more) = .ok rule

namespace Parse

variable {state : State} {tokens : List Token} {token : Token} {obstacle : Obstacle}

/-! ## Obstacles -/

/-- A token that cannot be read is itself the obstacle. -/
theorem found_of_step (h : step state token = .error obstacle) :
    obstacle.found = some token := by
  grind [step]

/-- At the end of the tokens no token is the obstacle. -/
theorem found_of_finish {rest : State} (h : finish rest = .error obstacle) :
    obstacle.found = none := by
  grind [finish]

/-- **Reading stops between a state and a token:** the tokens in front have been read, and the
token cannot follow them. -/
theorem exists_foldlM_eq_error (h : tokens.foldlM step state = .error obstacle) :
    ∃ index token next, tokens[index]? = some token ∧
      (tokens.take index).foldlM step state = .ok next ∧ step next token = .error obstacle := by
  induction tokens generalizing state with
  | nil => cases h
  | cons token tokens ih =>
    cases hstep : step state token with
    | error found =>
      rw [List.foldlM_cons, hstep] at h
      cases h
      exact ⟨0, token, state, rfl, rfl, hstep⟩
    | ok next =>
      rw [foldlM_step_cons hstep] at h
      obtain ⟨index, stopper, last, hstopper, hread, hobstacle⟩ := ih h
      refine ⟨index + 1, stopper, last, hstopper, ?_, hobstacle⟩
      rw [List.take_succ_cons, foldlM_step_cons hstep]
      exact hread

/-! ## Completions -/

/-- A token with some text and nothing else to it. -/
def sample (kind : TokenKind) (text : String) : Token := ⟨kind, text, 0, 0, none⟩

/-- Tokens that complete the operand that is being read. -/
def Phase.completion : Phase → List Token
  | .operand =>
    [sample .identifier "a", sample .comparator Comparator.eq.symbol, sample .literal "b"]
  | .comparator _ => [sample .comparator Comparator.eq.symbol, sample .literal "b"]
  | .literal _ _ => [sample .literal "b"]
  | .connective _ => []

/-- Tokens that make a rule of what has been read: the rest of an operand, and a closing bracket for
each bracket that is open. -/
def State.completion (state : State) : List Token :=
  state.phase.completion ++ List.replicate state.outer.length (sample .closing ")")

/-- Behind the completion of an operand a conjunction has been read. -/
theorem exists_foldlM_phase (level : Level) (outer : List Level) (phase : Phase) :
    ∃ level' conjunction, phase.completion.foldlM step ⟨level, outer, phase⟩ =
      .ok ⟨level', outer, .connective conjunction⟩ := by
  have hsymbol : (sample .comparator Comparator.eq.symbol).text = Comparator.eq.symbol := rfl
  cases phase with
  | operand =>
    have hread : (Phase.completion .operand).foldlM step ⟨level, outer, .operand⟩ =
        .ok (.complete level outer (.condition ⟨"a", .eq, .string "b"⟩)) := by
      rw [Phase.completion, foldlM_step_cons (step_name rfl),
        foldlM_step_cons (step_symbol rfl hsymbol _), foldlM_step_cons (step_rightHandSide rfl)]
      rfl
    exact ⟨_, _, hread⟩
  | comparator name =>
    have hread : (Phase.completion (.comparator name)).foldlM step
        ⟨level, outer, .comparator name⟩ =
          .ok (.complete level outer (.condition ⟨name, .eq, .string "b"⟩)) := by
      rw [Phase.completion, foldlM_step_cons (step_symbol rfl hsymbol name),
        foldlM_step_cons (step_rightHandSide rfl)]
      rfl
    exact ⟨_, _, hread⟩
  | literal name comparator =>
    have hread : (Phase.completion (.literal name comparator)).foldlM step
        ⟨level, outer, .literal name comparator⟩ =
          .ok (.complete level outer (.condition ⟨name, comparator, .string "b"⟩)) := by
      rw [Phase.completion, foldlM_step_cons (step_rightHandSide rfl)]
      rfl
    exact ⟨_, _, hread⟩
  | connective conjunction => exact ⟨level, conjunction, rfl⟩

/-- A conjunction is a rule once all brackets around it are closed. -/
theorem exists_foldlM_closings (level : Level) (outer : List Level) (conjunction : Rule) :
    ∃ rule, ((List.replicate outer.length (sample .closing ")")).foldlM step
      ⟨level, outer, .connective conjunction⟩).bind finish = .ok rule := by
  induction outer generalizing level conjunction with
  | nil => exact ⟨level.disjoin conjunction, rfl⟩
  | cons around outer ih =>
    rw [List.length_cons, List.replicate_succ,
      foldlM_step_cons (step_closing rfl around conjunction)]
    exact ih _ _

/-- Tokens behind those that have been read are read from the state that these lead to. -/
theorem run_append (h : tokens.foldlM step .start = .ok state) (more : List Token) :
    run (tokens ++ more) = (more.foldlM step state).bind finish := by
  unfold run
  rw [foldlM_step_append h]
  rfl

/-- **What has been read is viable.**

**Proof sketch.** Whatever the state, the operand that is being read can be completed, and then all
open brackets can be closed. Completing opens no bracket, so there is room for it at any depth. -/
theorem viable_of_foldlM (h : tokens.foldlM step .start = .ok state) : Token.Viable tokens := by
  obtain ⟨level, outer, phase⟩ := state
  obtain ⟨level', conjunction, hphase⟩ := exists_foldlM_phase level outer phase
  obtain ⟨rule, hclosings⟩ := exists_foldlM_closings level' outer conjunction
  refine ⟨State.completion ⟨level, outer, phase⟩, rule, Rule.ofTokensUpTo_eq_ok_iff.2 ?_⟩
  rw [run_append h, State.completion, foldlM_step_append hphase]
  exact hclosings

/-- What has been read is not viable together with a token that is an obstacle. -/
theorem not_viable_of_step (h : tokens.foldlM step .start = .ok state)
    (hstep : step state token = .error obstacle) : ¬Token.Viable (tokens ++ [token]) := by
  rintro ⟨more, rule, hread⟩
  have hrun := Rule.ofTokensUpTo_eq_ok_iff.1 hread
  rw [List.append_assoc, List.singleton_append, run_append h, List.foldlM_cons, hstep] at hrun
  cases hrun

end Parse

/-! ## Refusals -/

/-- **Tokens are refused at the first that is impossible.** The fault has the text and the offset of
a token, the tokens in front of which are viable and are not with the token itself; or all tokens
are viable and no rule, and the fault is at their end, which is the end of the last token. Viable
tokens are those that a rule can begin with, brackets nesting at most `maxNesting` deep in it.

**Proof sketch.** Reading stops at a token or at the end. The state there says that what has been
read is viable (`Parse.viable_of_foldlM`); and since reading goes on from the state alone, nothing
that follows an obstacle is read any more (`Parse.not_viable_of_step`). -/
theorem Rule.refused_at_first_impossible (tokens : List Token) {fault : Fault}
    (h : ofTokens tokens = .error fault) :
    (∃ index token expected, tokens[index]? = some token ∧
      fault = .unexpected s!"'{token.text}'" expected token.offset ∧
      Token.Viable (tokens.take index) ∧ ¬Token.Viable (tokens.take (index + 1))) ∨
    ∃ expected,
      fault = .unexpected "输入结束" expected ((tokens.getLast?.map (·.stop)).getD 0) ∧
      (∀ rule, ofTokens tokens ≠ .ok rule) ∧ Token.Viable tokens := by
  have hrun : ∃ obstacle, Parse.run tokens = .error obstacle ∧
      fault = obstacle.fault ((tokens.getLast?.map (·.stop)).getD 0) := by
    unfold ofTokens ofTokensUpTo at h
    cases hrun : Parse.run tokens with
    | error obstacle =>
      rw [hrun] at h
      exact ⟨obstacle, rfl, (Except.error.inj h).symm⟩
    | ok rule =>
      rw [hrun] at h
      cases h
  obtain ⟨⟨found, expected⟩, hrun, rfl⟩ := hrun
  cases hread : tokens.foldlM Parse.step .start with
  | error obstacle =>
    obtain rfl : obstacle = ⟨found, expected⟩ := by
      unfold Parse.run at hrun
      rw [hread] at hrun
      exact Except.error.inj hrun
    obtain ⟨index, token, state, htoken, hbefore, hstep⟩ := Parse.exists_foldlM_eq_error hread
    obtain rfl : found = some token := Parse.found_of_step hstep
    refine .inl ⟨index, token, expected.text, htoken, rfl, Parse.viable_of_foldlM hbefore, ?_⟩
    rw [List.take_add_one, htoken]
    exact Parse.not_viable_of_step hbefore hstep
  | ok state =>
    have hfinish : Parse.finish state = .error ⟨found, expected⟩ := by
      unfold Parse.run at hrun
      rw [hread] at hrun
      exact hrun
    obtain rfl : found = none := Parse.found_of_finish hfinish
    refine .inr ⟨expected.text, rfl, ?_, Parse.viable_of_foldlM hread⟩
    intro rule hrule
    rw [h] at hrule
    cases hrule

/-- A name, a comparator that is none of the six, and a literal. -/
def Token.unknownComparator : List Token :=
  [⟨.identifier, "a", 0, 1, none⟩, ⟨.comparator, "~", 2, 3, none⟩, ⟨.literal, "b", 4, 5, none⟩]

/-- A comparator that is none of the six is refused itself, not the literal behind it. -/
theorem Rule.refused_at_unknown_comparator :
    ofTokens Token.unknownComparator = .error (.unexpected "'~'" "比较操作符" 2) ∧
      Token.Viable (Token.unknownComparator.take 1) ∧
      ¬Token.Viable (Token.unknownComparator.take 2) := by
  have h : ofTokens Token.unknownComparator = .error (.unexpected "'~'" "比较操作符" 2) := rfl
  refine ⟨h, ?_⟩
  rcases refused_at_first_impossible _ h with
    ⟨index, token, expected, htoken, hfault, hviable⟩ | ⟨expected, hfault, -, -⟩
  · have hoffset : token.offset = 2 := (Fault.unexpected.inj hfault).2.2.symm
    obtain rfl : index = 1 := by
      match index with
      | 0 => cases htoken; cases hoffset
      | 1 => rfl
      | 2 => cases htoken; cases hoffset
      | index + 3 => cases htoken
    exact hviable
  · exact absurd (Fault.unexpected.inj hfault).1 (by decide)

end Criteria

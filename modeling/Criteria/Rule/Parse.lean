import Criteria.Rule.Basic
import Criteria.Token.Scan

/-!
# Reading rules

A list of tokens is read as a rule. Conjunction binds tighter than disjunction, both group to
the left, and brackets nest at most `maxNesting` deep.

## Main definitions

* `Criteria.Parse.State` — what has been read so far: one level for each open bracket and one
  for the text itself, and what the next token has to be.
* `Criteria.Parse.step`, `Criteria.Parse.finish` — one token, and the end of the tokens.
* `Criteria.Rule.ofTokens`, `Criteria.Rule.ofText` — the rule that tokens or a text are.

## Implementation notes

Reading is a fold over the tokens, so whatever stops it depends on the tokens up to that place
alone. A level keeps the left sides of the connectives that wait for their right sides: at most
one disjunction, and inside it at most one conjunction.
-/

set_option autoImplicit false
set_option relaxedAutoImplicit false

namespace Criteria

namespace Parse

/-! ## Obstacles -/

/-- What would have been welcome instead of a token. -/
inductive Expectation where
  /-- An opening bracket or a name. -/
  | operand
  /-- A comparator. -/
  | comparator
  /-- A literal. -/
  | literal
  /-- A connective. -/
  | connective
  /-- A closing bracket. -/
  | closing
  /-- Anything but one more opening bracket. -/
  | shallower
  deriving DecidableEq

/-- The wording of an expectation. -/
def Expectation.text : Expectation → String
  | .operand => "'(' 或 标识符"
  | .comparator => "比较操作符"
  | .literal => "字面量"
  | .connective => "AND 或 OR"
  | .closing => "')'"
  | .shallower => s!"嵌套不超过 {maxNesting} 层的表达式"

/-- A token, or the end of the tokens, where something else is expected. -/
structure Obstacle where
  /-- The token, `none` at the end. -/
  found : Option Token
  /-- What is expected. -/
  expected : Expectation
  deriving DecidableEq

/-- The fault that an obstacle is, if the text ends at `stop`. -/
def Obstacle.fault (obstacle : Obstacle) (stop : Nat) : Fault :=
  match obstacle.found with
  | some token => .unexpected s!"'{token.text}'" obstacle.expected.text token.offset
  | none => .unexpected "输入结束" obstacle.expected.text stop

/-! ## States -/

/-- What one bracket, or the whole text, waits for. -/
structure Level where
  /-- The left side of a disjunction. -/
  disjunct : Option Rule
  /-- The left side of a conjunction. -/
  conjunct : Option Rule
  deriving DecidableEq

/-- The level at its start. -/
def Level.fresh : Level := ⟨none, none⟩

/-- A rule as the right side of a conjunction, if one waits. -/
def Level.conjoin (level : Level) (rule : Rule) : Rule :=
  match level.conjunct with
  | none => rule
  | some left => .join .conj left rule

/-- A rule as the right side of a disjunction, if one waits. -/
def Level.disjoin (level : Level) (rule : Rule) : Rule :=
  match level.disjunct with
  | none => rule
  | some left => .join .disj left rule

/-- What the next token continues. -/
inductive Phase where
  /-- A condition or a bracket has to start. -/
  | operand
  /-- A condition has its name. -/
  | comparator (name : String)
  /-- A condition has its name and its comparator. -/
  | literal (name : String) (comparator : Comparator)
  /-- A conjunction has been read, which may go on. -/
  | connective (conjunction : Rule)
  deriving DecidableEq

/-- What has been read so far. -/
structure State where
  /-- The innermost open bracket, or the text if none is open. -/
  level : Level
  /-- The levels around it, from the inside out; there is one for each open bracket. -/
  outer : List Level
  /-- What the next token continues. -/
  phase : Phase
  deriving DecidableEq

namespace State

/-- Before the first token. -/
def start : State := ⟨.fresh, [], .operand⟩

/-- The state after an operand. -/
def complete (level : Level) (outer : List Level) (operand : Rule) : State :=
  ⟨{ level with conjunct := none }, outer, .connective (level.conjoin operand)⟩

/-- What a state expects. -/
def expectation (state : State) : Expectation :=
  match state.phase, state.outer with
  | .operand, _ => .operand
  | .comparator _, _ => .comparator
  | .literal _ _, _ => .literal
  | .connective _, [] => .connective
  | .connective _, _ :: _ => .closing

end State

/-- The state after one more token. A name on the right of a comparator is read as a text, and
so is a literal that has no value. -/
def step (state : State) (token : Token) : Except Obstacle State :=
  match state.phase, token.kind with
  | .operand, .opening =>
    if state.outer.length < maxNesting then
      .ok ⟨.fresh, state.level :: state.outer, .operand⟩
    else .error ⟨some token, .shallower⟩
  | .operand, .identifier => .ok { state with phase := .comparator token.text }
  | .comparator name, .comparator =>
    match Comparator.ofSymbol? token.text with
    | some comparator => .ok { state with phase := .literal name comparator }
    | none => .error ⟨some token, .comparator⟩
  | .literal name comparator, .literal =>
    .ok (.complete state.level state.outer
      (.condition ⟨name, comparator, token.value.getD (.string token.text)⟩))
  | .literal name comparator, .identifier =>
    .ok (.complete state.level state.outer (.condition ⟨name, comparator, .string token.text⟩))
  | .connective conjunction, .conj =>
    .ok ⟨{ state.level with conjunct := some conjunction }, state.outer, .operand⟩
  | .connective conjunction, .disj =>
    .ok ⟨⟨some (state.level.disjoin conjunction), none⟩, state.outer, .operand⟩
  | .connective conjunction, .closing =>
    match state.outer with
    | [] => .error ⟨some token, .connective⟩
    | level :: outer => .ok (.complete level outer (state.level.disjoin conjunction))
  | _, _ => .error ⟨some token, state.expectation⟩

/-- The rule that has been read when the tokens end. -/
def finish (state : State) : Except Obstacle Rule :=
  match state.phase, state.outer with
  | .connective conjunction, [] => .ok (state.level.disjoin conjunction)
  | _, _ => .error ⟨none, state.expectation⟩

/-- The rule that tokens are. -/
def run (tokens : List Token) : Except Obstacle Rule := do
  finish (← tokens.foldlM step .start)

end Parse

namespace Rule

/-- The rule that tokens are, if the text behind them ends at `stop`. -/
def ofTokensUpTo (stop : Nat) (tokens : List Token) : Except Fault Rule :=
  (Parse.run tokens).mapError (·.fault stop)

/-- The rule that tokens are; the text ends with the last of them. -/
def ofTokens (tokens : List Token) : Except Fault Rule :=
  ofTokensUpTo ((tokens.getLast?.map (·.stop)).getD 0) tokens

/-- The rule that a text is. -/
def ofText (text : String) : Except Fault Rule := do
  ofTokensUpTo text.length (← Token.scan text.toList)

end Rule

end Criteria

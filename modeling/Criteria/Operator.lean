import Criteria.Value

/-!
# Comparators and connectives

The symbols between an attribute and its literal, and the words between two rules.

## Main definitions

* `Criteria.Comparator` — the six comparators, their symbols and the kinds they compare.
* `Criteria.Connective` — conjunction and disjunction, their words and how tightly they bind.

## Main results

* `Criteria.Comparator.ofSymbol?_eq_some_iff`, `Criteria.Connective.ofWord?_eq_some_iff` —
  each is read from its own symbol or word and from nothing else.
-/

set_option autoImplicit false
set_option relaxedAutoImplicit false

namespace Criteria

/-! ## Comparators -/

/-- The comparators of conditions. -/
inductive Comparator where
  /-- Equal to. -/
  | eq
  /-- Different from. -/
  | ne
  /-- Greater than. -/
  | gt
  /-- At least. -/
  | ge
  /-- Less than. -/
  | lt
  /-- At most. -/
  | le
  deriving DecidableEq

namespace Comparator

/-- All comparators. -/
def all : List Comparator := [.eq, .ne, .gt, .ge, .lt, .le]

/-- The symbol of a comparator. -/
def symbol : Comparator → String
  | .eq => "="
  | .ne => "!="
  | .gt => ">"
  | .ge => ">="
  | .lt => "<"
  | .le => "<="

/-- The comparator with a given symbol. -/
def ofSymbol? (symbol : String) : Option Comparator := all.find? (·.symbol == symbol)

/-- The comparator with a given symbol, or what is wrong with the symbol. -/
def read (symbol : String) : Except String Comparator :=
  match ofSymbol? symbol with
  | some comparator => .ok comparator
  | none => .error s!"未知的比较操作符: {symbol}"

/-- Whether a comparator is defined on a kind: all kinds have equality, numbers alone an
order. -/
def supports : Comparator → Kind → Bool
  | .eq, _ => true
  | .ne, _ => true
  | _, kind => kind == .number

/-- The kinds that a comparator is defined on, as they are listed in a message. -/
def supportedKinds (c : Comparator) : String :=
  " | ".intercalate ((Kind.all.filter c.supports).map Kind.name)

/-- A comparator is read from its symbol and from nothing else. -/
theorem ofSymbol?_eq_some_iff {s : String} {c : Comparator} :
    ofSymbol? s = some c ↔ s = c.symbol := by
  constructor
  · intro h
    unfold ofSymbol? at h
    have hs := List.find?_some h
    exact (beq_iff_eq.1 hs).symm
  · rintro rfl
    cases c <;> decide

end Comparator

/-! ## Connectives -/

/-- The connectives of rules. -/
inductive Connective where
  /-- Both sides hold. -/
  | conj
  /-- At least one side holds. -/
  | disj
  deriving DecidableEq

namespace Connective

/-- The word for a connective. -/
def word : Connective → String
  | .conj => "AND"
  | .disj => "OR"

/-- The connective with a given word. -/
def ofWord? (word : String) : Option Connective :=
  if word = "AND" then some .conj else if word = "OR" then some .disj else none

/-- The connective with a given word, or what is wrong with the word. -/
def read (word : String) : Except String Connective :=
  match ofWord? word with
  | some op => .ok op
  | none => .error s!"未知的逻辑操作符: {word}"

/-- How tightly a connective binds. -/
def precedence : Connective → Nat
  | .conj => 2
  | .disj => 1

/-- Whether the left side alone settles a rule: a conjunction if it fails, a disjunction if it
holds. -/
def settledBy : Connective → Bool → Bool
  | .conj, left => !left
  | .disj, left => left

/-- A connective is read from its word and from nothing else. -/
theorem ofWord?_eq_some_iff {s : String} {op : Connective} :
    ofWord? s = some op ↔ s = op.word := by
  constructor
  · unfold ofWord?
    split
    · next h => rintro ⟨⟩; exact h
    · split
      · next h => rintro ⟨⟩; exact h
      · simp
  · rintro rfl
    cases op <;> decide

end Connective

end Criteria

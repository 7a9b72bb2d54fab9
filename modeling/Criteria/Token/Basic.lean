import Criteria.Value

/-!
# Tokens

The pieces of a rule's text, each with the span of characters it was read from.

## Main definitions

* `Criteria.TokenKind` — the kinds of pieces, and the names they have in messages.
* `Criteria.Token` — a piece.
-/

set_option autoImplicit false
set_option relaxedAutoImplicit false

namespace Criteria

/-- The kinds of tokens. -/
inductive TokenKind where
  /-- A name. -/
  | identifier
  /-- The symbol of a comparator. -/
  | comparator
  /-- A literal. -/
  | literal
  /-- The word for conjunction. -/
  | conj
  /-- The word for disjunction. -/
  | disj
  /-- An opening bracket. -/
  | opening
  /-- A closing bracket. -/
  | closing
  deriving DecidableEq

/-- A piece of a text. -/
structure Token where
  /-- What kind of piece it is. -/
  kind : TokenKind
  /-- The piece as written; of a quoted text, what it protects. -/
  text : String
  /-- How many characters come before it. -/
  offset : Nat
  /-- How many characters come before its end; quotation marks belong to it. -/
  stop : Nat
  /-- The value of a literal. -/
  value : Option Value
  deriving DecidableEq

end Criteria

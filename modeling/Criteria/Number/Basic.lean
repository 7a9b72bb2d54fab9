import Criteria.Number.Magnitude

/-!
# Numbers

The numbers of rules and records: signed magnitudes of the binary64 format and one value
that is not a number.

## Main definitions

* `Criteria.Number` — the type.
* `Criteria.Number.equals`, `Criteria.Number.below` — numeric comparison, in which both
  zeros are one number and `nan` compares with nothing.
* `Criteria.Number.quotient` — a quotient of natural numbers, rounded.
-/

set_option autoImplicit false
set_option relaxedAutoImplicit false

namespace Criteria

/-- A number of the binary64 format. -/
inductive Number where
  /-- The value that is not a number. -/
  | nan
  /-- A magnitude with a sign; zero and infinity have both signs. -/
  | signed (negative : Bool) (magnitude : Magnitude)
  deriving DecidableEq

namespace Number

/-- Positive zero. -/
def zero : Number := .signed false .zero

/-- Whether a number is neither infinite nor `nan`. -/
def isFinite : Number → Bool
  | .nan => false
  | .signed _ m => m.isFinite

/-- The place of a number on the number line, `none` for `nan`; both zeros have place `0`. -/
def position? : Number → Option Int
  | .nan => none
  | .signed true m => some (-(m.rank : Int))
  | .signed false m => some (m.rank : Int)

/-- Numeric equality. -/
def equals (a b : Number) : Bool :=
  match a.position?, b.position? with
  | some p, some q => p == q
  | _, _ => false

/-- Whether `a` is numerically less than `b`. -/
def below (a b : Number) : Bool :=
  match a.position?, b.position? with
  | some p, some q => p < q
  | _, _ => false

/-- The number nearest to `num / den`, for a positive `den`. -/
def quotient (num den : Nat) : Number := .signed false (.nearest num den)

/-- The number nearest to an integer. -/
def ofInt (i : Int) : Number := .signed (i < 0) (.ofNat i.natAbs)

/-! ## First facts -/

/-- Every number but `nan` equals itself. -/
theorem equals_self_iff (a : Number) : a.equals a = true ↔ a ≠ .nan := by
  cases a with
  | nan => simp [equals, position?]
  | signed negative m => cases negative <;> simp [equals, position?]

/-- Numeric equality does not depend on the order. -/
theorem equals_comm (a b : Number) : a.equals b = b.equals a := by
  unfold equals
  cases a.position? <;> cases b.position? <;> simp [Bool.beq_comm]

end Number

end Criteria

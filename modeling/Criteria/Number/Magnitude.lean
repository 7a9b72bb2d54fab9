/-!
# Magnitudes of the binary64 format

The non-negative values of the binary64 format, numbered from zero upward. Every finite
value is a whole number of units `2⁻¹⁰⁷⁴`, so the whole theory is about natural numbers: a
magnitude is its place in the enumeration, and `Magnitude.units` says how many units it is
worth.

## Main definitions

* `Criteria.Magnitude` — a place in the enumeration; the last one is infinity.
* `Criteria.Magnitude.binade` — the number of places between two powers of two.
* `Criteria.Magnitude.units` — the value in units of `2⁻¹⁰⁷⁴`, strictly increasing.
* `Criteria.Magnitude.nearest` — a quotient rounded to the nearest magnitude, ties to even.
* `Criteria.Magnitude.mul`, `Criteria.Magnitude.div` — product and quotient, rounded once.

## Implementation notes

The value of a place is read off its binary form: below `2⁵²` it is the place itself, above
that the lower 52 bits are the fraction and the rest is the exponent. Infinity is given the
worth `2¹⁰²⁴` that its place would have, which makes "too large" an instance of rounding.
-/

set_option autoImplicit false
set_option relaxedAutoImplicit false

namespace Criteria

namespace Magnitude

/-! ## The grid -/

/-- The number of units `2⁻¹⁰⁷⁴` in one. -/
def unitsPerOne : Nat := Nat.pow 2 1074

/-- How many places lie from one power of two to the next: `2⁵²`. -/
def binade : Nat := 4503599627370496

/-- The place of infinity, the last of the enumeration. -/
def topRank : Nat := 2047 * binade

/-- The worth, in units, of the place `rank`. -/
def gridUnits (rank : Nat) : Nat :=
  if rank < binade then rank else (binade + rank % binade) * Nat.pow 2 (rank / binade - 1)

/-- The last place worth at most `units`. -/
def gridRank (units : Nat) : Nat :=
  let shift := units.log2 - 52
  shift * binade + units / Nat.pow 2 shift

end Magnitude

/-- A non-negative value of the binary64 format, given by its place among them. -/
structure Magnitude where
  /-- How many smaller values there are. -/
  rank : Nat
  /-- No place comes after infinity. -/
  rank_le : rank ≤ Magnitude.topRank
  deriving DecidableEq

namespace Magnitude

/-- The smallest magnitude. -/
def zero : Magnitude := ⟨0, Nat.zero_le _⟩

/-- The largest magnitude. -/
def infinite : Magnitude := ⟨topRank, Nat.le_refl _⟩

/-- Whether a magnitude is an ordinary value. -/
def isFinite (m : Magnitude) : Bool := m.rank < topRank

/-- The worth of a magnitude in units of `2⁻¹⁰⁷⁴`. -/
def units (m : Magnitude) : Nat := gridUnits m.rank

/-- The magnitude at a place, infinity for every place beyond the last. -/
def ofRank (rank : Nat) : Magnitude := ⟨min rank topRank, Nat.min_le_right _ _⟩

/-! ## Rounding -/

/-- The place that `num / den` rounds to, given the last place below it: the nearer of the
two neighbours, and of two equally near the one with an even place. -/
def roundFrom (below num den : Nat) : Nat :=
  let doubled := 2 * (num * unitsPerOne)
  let middle := (gridUnits below + gridUnits (below + 1)) * den
  if doubled < middle then below
  else if middle < doubled then below + 1
  else if below % 2 = 0 then below
  else below + 1

/-- The magnitude nearest to `num / den`, for a positive `den`; ties go to the even place. -/
def nearest (num den : Nat) : Magnitude :=
  let below := gridRank (num * unitsPerOne / den)
  if topRank ≤ below then infinite else ofRank (roundFrom below num den)

/-- The magnitude nearest to a natural number. -/
def ofNat (n : Nat) : Magnitude := nearest n 1

/-- The product of two magnitudes, rounded once. -/
def mul (a b : Magnitude) : Magnitude := nearest (a.units * b.units) (unitsPerOne * unitsPerOne)

/-- The quotient of two magnitudes, rounded once; the divisor is not zero. -/
def div (a b : Magnitude) : Magnitude := nearest a.units b.units

/-- The magnitude nearest to `10 ^ k`. -/
def powerOfTen (k : Nat) : Magnitude := ofNat (Nat.pow 10 k)

/-! ## First facts -/

@[simp] theorem units_zero : zero.units = 0 := rfl

/-- Below `2⁵³` every place is worth its own number. -/
theorem gridUnits_of_lt {rank : Nat} (h : rank < 2 * binade) : gridUnits rank = rank := by
  unfold gridUnits
  split
  · rfl
  · have hone : rank / binade = 1 := by unfold binade at *; omega
    have hrest : rank % binade = rank - binade := by unfold binade at *; omega
    have hpow : Nat.pow 2 (1 - 1) = 1 := rfl
    rw [hone, hrest, hpow]
    omega

end Magnitude

end Criteria

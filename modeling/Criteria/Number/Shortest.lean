import Criteria.Number.Numeral

/-!
# The shortest decimal

The text of a number: the fewest digits that read back to it, written out by position and
never with an exponent.

## Main definitions

* `Criteria.Magnitude.shortest` — the shortest decimal that reads back, of several the
  nearest, and of two equally near the larger.
* `Criteria.Decimal.positional` — a decimal written out by position.
* `Criteria.Number.text` — the text of a number.

## Implementation notes

The grids `10 ^ k` are tried from coarse to fine. On each the two neighbours of the value are
the only candidates, and a candidate counts if `Decimal.nearest` leads back to the magnitude.
Every magnitude is a decimal with 1074 places, which ends the search without one.
-/

set_option autoImplicit false
set_option relaxedAutoImplicit false

namespace Criteria

namespace Magnitude

/-- The value of a magnitude as a decimal, exact since `2⁻¹⁰⁷⁴ = 5¹⁰⁷⁴ · 10⁻¹⁰⁷⁴`. -/
def exactDecimal (m : Magnitude) : Decimal := ⟨m.units * Nat.pow 5 1074, -1074⟩

/-- Whether a decimal is nearest to the magnitude. -/
def readsBack (m : Magnitude) (d : Decimal) : Bool := d.nearest == m

/-- The value of a magnitude in steps of `10 ^ exponent`, as a quotient of natural numbers. -/
def steps (m : Magnitude) (exponent : Int) : Nat × Nat :=
  if 0 ≤ exponent then (m.units, unitsPerOne * Nat.pow 10 exponent.toNat)
  else (m.units * Nat.pow 10 (-exponent).toNat, unitsPerOne)

/-- The candidate of the grid `10 ^ exponent`: a neighbour of the value that reads back, the
nearer one if both do, and the upper one if both are equally near. -/
def onGrid? (m : Magnitude) (exponent : Int) : Option Decimal :=
  let (num, den) := m.steps exponent
  let lower : Decimal := ⟨num / den, exponent⟩
  let upper : Decimal := ⟨num / den + 1, exponent⟩
  match m.readsBack lower, m.readsBack upper with
  | true, true => some (if 2 * (num % den) < den then lower else upper)
  | true, false => some lower
  | false, true => some upper
  | false, false => none

/-- The candidate of the first of `grids` grids that has one, from `10 ^ exponent` downward. -/
def search (m : Magnitude) : (grids : Nat) → (exponent : Int) → Decimal
  | 0, _ => m.exactDecimal
  | grids + 1, exponent => (m.onGrid? exponent).getD (m.search grids (exponent - 1))

/-- A power of ten above the value of a magnitude, by an estimate that is at most a few
powers too large. -/
def ceilingExponent (m : Magnitude) : Int :=
  ((m.units.log2 : Int) - 1074) * 30103 / 100000 + 2

/-- The shortest decimal that reads back to a finite magnitude. Seventeen digits always do,
and the search covers a few grids more. -/
def shortest (m : Magnitude) : Decimal :=
  if m.rank = 0 then ⟨0, 0⟩ else m.search 24 m.ceilingExponent

end Magnitude

namespace Decimal

/-- A decimal written out by position. -/
def positional (d : Decimal) : List Char :=
  let digits := Nat.toDigits 10 d.coefficient
  if 0 ≤ d.exponent then digits ++ List.replicate d.exponent.toNat '0'
  else
    let places := (-d.exponent).toNat
    if places < digits.length then
      digits.take (digits.length - places) ++ '.' :: digits.drop (digits.length - places)
    else '0' :: '.' :: (List.replicate (places - digits.length) '0' ++ digits)

end Decimal

namespace Number

/-- The characters of a number's text. -/
def chars : Number → List Char
  | .nan => ['N', 'a', 'N']
  | .signed negative m =>
    let unsigned := if m.isFinite then m.shortest.positional else ['i', 'n', 'f']
    if negative then '-' :: unsigned else unsigned

/-- The text of a number: the shortest digits that read back, by position. -/
def text (n : Number) : String := String.ofList n.chars

end Number

end Criteria

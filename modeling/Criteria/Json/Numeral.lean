import Criteria.Number.Numeral

/-!
# The numbers of JSON texts

A number in a JSON text is put together from at most 64 bits of digits and a power of ten, with
one rounding for each: whole numbers that fit are nearest to what is written, all others are as
near as two roundings come.

## Main definitions

* `Criteria.Numeral.significand` — the digits that fit into 64 bits, and the power of ten that
  makes up for the others.
* `Criteria.Magnitude.scale?` — a magnitude times a power of ten.
* `Criteria.Numeral.approximate?` — the number, unless it is beyond the finite ones.
-/

set_option autoImplicit false
set_option relaxedAutoImplicit false

namespace Criteria

namespace Numeral

/-- The largest significand, `2⁶⁴ - 1`. -/
def maxSignificand : Nat := 18446744073709551615

/-- A significand with one more digit at its end. -/
def extend (significand : Nat) (digit : Char) : Nat :=
  significand * 10 + (digit.toNat - '0'.toNat)

/-- The significand of whole digits: those from the first that does not fit on are dropped, and
counted. -/
def wholePart (significand : Nat) : List Char → Nat × Nat
  | [] => (significand, 0)
  | digit :: rest =>
    if maxSignificand < extend significand digit then (significand, rest.length + 1)
    else wholePart (extend significand digit) rest

/-- A significand continued by fraction digits: those from the first that does not fit on are
dropped, and the others are counted. -/
def fractionPart (significand : Nat) : List Char → Nat × Nat
  | [] => (significand, 0)
  | digit :: rest =>
    if maxSignificand < extend significand digit then (significand, 0)
    else
      let (significand, places) := fractionPart (extend significand digit) rest
      (significand, places + 1)

/-- The digits of a numeral that fit into 64 bits, and the power of ten they are scaled by. -/
def significand (n : Numeral) : Nat × Int :=
  let (whole, dropped) := wholePart 0 n.whole
  let (significand, places) := fractionPart whole n.fraction
  (significand, (dropped : Int) - places + n.exponent)

end Numeral

namespace Magnitude

/-- The largest power of ten below infinity. -/
def maxPowerOfTen : Nat := 308

/-- A magnitude of at most 64 bits times `10 ^ exponent`, unless that is infinite. Powers
beyond the largest one take two divisions, and after those nothing is left. -/
def scale? (m : Magnitude) (exponent : Int) : Option Magnitude :=
  let size := exponent.natAbs
  if m = zero then some zero
  else if 0 ≤ exponent then
    if maxPowerOfTen < size then none
    else
      let scaled := m.mul (powerOfTen size)
      if scaled.isFinite then some scaled else none
  else if size ≤ maxPowerOfTen then some (m.div (powerOfTen size))
  else if size ≤ 2 * maxPowerOfTen then
    some ((m.div (powerOfTen maxPowerOfTen)).div (powerOfTen (size - maxPowerOfTen)))
  else some zero

end Magnitude

namespace Numeral

/-- The number that a numeral stands for in a JSON text. -/
def approximate? (n : Numeral) : Option Number :=
  let (significand, exponent) := n.significand
  ((Magnitude.ofNat significand).scale? exponent).map (.signed n.negative)

end Numeral

end Criteria

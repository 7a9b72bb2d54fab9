/-!
# Hexadecimal digits

## Main definitions

* `Criteria.hexValue?` — the value of a digit.
* `Criteria.hexNumber?` — the number that digits are.
-/

set_option autoImplicit false
set_option relaxedAutoImplicit false

namespace Criteria

/-- The value of a hexadecimal digit, in either case. -/
def hexValue? (c : Char) : Option Nat :=
  if c.isDigit then some (c.toNat - '0'.toNat)
  else if 'a' ≤ c ∧ c ≤ 'f' then some (c.toNat - 'a'.toNat + 10)
  else if 'A' ≤ c ∧ c ≤ 'F' then some (c.toNat - 'A'.toNat + 10)
  else none

/-- The number that hexadecimal digits are, the first of them the highest. -/
def hexNumber? (digits : List Char) : Option Nat :=
  digits.foldlM (fun n c => (hexValue? c).map (n * 16 + ·)) 0

end Criteria

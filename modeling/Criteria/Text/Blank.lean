/-!
# Blank characters

The characters with the Unicode property `White_Space`.

## Main definitions

* `Criteria.isBlank` — the property.
* `Criteria.trimBlank` — a text without the blanks at its ends.
-/

set_option autoImplicit false
set_option relaxedAutoImplicit false

namespace Criteria

/-- Whether a character has the property `White_Space`. -/
def isBlank (c : Char) : Bool :=
  let n := c.toNat
  (0x9 ≤ n && n ≤ 0xD) || n == 0x20 || n == 0x85 || n == 0xA0 || n == 0x1680
    || (0x2000 ≤ n && n ≤ 0x200A) || n == 0x2028 || n == 0x2029 || n == 0x202F
    || n == 0x205F || n == 0x3000

/-- A text without the blanks at its ends. -/
def trimBlank (text : List Char) : List Char :=
  ((text.dropWhile isBlank).reverse.dropWhile isBlank).reverse

end Criteria

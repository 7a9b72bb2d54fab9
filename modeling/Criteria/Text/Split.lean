/-!
# Splitting a text at a character

## Main definitions

* `Criteria.split` — the parts between the separators of a text.
-/

set_option autoImplicit false
set_option relaxedAutoImplicit false

namespace Criteria

/-- The parts of a text between its separators; a text without a separator is its only part. -/
def split (separator : Char) : List Char → List (List Char)
  | [] => [[]]
  | c :: rest =>
    if c = separator then [] :: split separator rest
    else
      match split separator rest with
      | [] => [[c]]
      | part :: parts => (c :: part) :: parts

end Criteria

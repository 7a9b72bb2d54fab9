/-!
# Places in texts

Places in a text are counted in the bytes of its UTF-8 form. A place within a character is none
where a text can be cut.

## Main definitions

* `Criteria.dropBytes?`, `Criteria.takeBytes?`, `Criteria.slice?` — parts of a text.
* `Criteria.withPlaces` — the characters of a text with their places.
-/

set_option autoImplicit false
set_option relaxedAutoImplicit false

namespace Criteria

/-- A text without its first `n` bytes, if it can be cut there. -/
def dropBytes? : (n : Nat) → List Char → Option (List Char)
  | 0, text => some text
  | _ + 1, [] => none
  | n + 1, c :: rest =>
    if c.utf8Size ≤ n + 1 then dropBytes? (n + 1 - c.utf8Size) rest else none

/-- The first `n` bytes of a text, if it can be cut there. -/
def takeBytes? : (n : Nat) → List Char → Option (List Char)
  | 0, _ => some []
  | _ + 1, [] => none
  | n + 1, c :: rest =>
    if c.utf8Size ≤ n + 1 then (takeBytes? (n + 1 - c.utf8Size) rest).map (c :: ·) else none

/-- A text from one place to another, if it can be cut at both. -/
def slice? (start stop : Nat) (text : List Char) : Option (List Char) :=
  (dropBytes? start text).bind (takeBytes? (stop - start))

/-- The characters of a text with their places, the first of them at `start`. -/
def withPlaces : (start : Nat) → List Char → List (Nat × Char)
  | _, [] => []
  | start, c :: rest => (start, c) :: withPlaces (start + c.utf8Size) rest

end Criteria

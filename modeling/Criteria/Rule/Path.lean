/-!
# Addresses in trees

A node of a binary tree is addressed by the turns that lead to it from the root.

## Main definitions

* `Criteria.Side` — a turn.
* `Criteria.Path` — the turns from the root on; `Criteria.Path.text` writes them.
-/

set_option autoImplicit false
set_option relaxedAutoImplicit false

namespace Criteria

/-- One of the two sides of a node. -/
inductive Side where
  /-- The left side. -/
  | left
  /-- The right side. -/
  | right
  deriving DecidableEq

/-- The word for a side in an address. -/
def Side.word : Side → String
  | .left => "left"
  | .right => "right"

/-- The turns that lead from the root of a tree to a node. -/
abbrev Path := List Side

namespace Path

/-- The text of an address: `root`, and the turns, each after a point. -/
def text (path : Path) : String := path.foldl (fun text side => text ++ "." ++ side.word) "root"

/-- An address grows by one turn at its end. -/
@[simp] theorem text_snoc (path : Path) (side : Side) :
    text (path ++ [side]) = text path ++ "." ++ side.word := by
  simp [text]

end Path

end Criteria

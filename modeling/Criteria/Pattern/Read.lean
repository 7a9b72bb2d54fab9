import Criteria.Pattern.Set
import Criteria.Text.Letter

/-!
# Reading patterns

Which texts are patterns. A pattern is alternatives with strokes between them, each a row of
characters, sets and groups that can be repeated; a group stands in parentheses and can be named,
and switches hold up to the end of the group in which they are set.

## Main definitions

* `Criteria.Pattern.readAlternatives?` — the alternatives of a group are read over.
* `Criteria.isPattern` — whether a text is a pattern.

## Implementation notes

Nothing is matched here, so of a pattern that has been read over only how deep it nests is kept. The
number of a repetition cannot be given: braces have another meaning where patterns stand.
-/

set_option autoImplicit false
set_option relaxedAutoImplicit false

namespace Criteria

namespace Pattern

/-! ## Groups -/

/-- The letters of switches, and the hyphen behind which they are switched off. -/
def switches : List Char := ['i', 'm', 's', 'U', 'u', 'R', 'x', '-']

/-- The value of a switch after some have been set, `old` if it is not among them. -/
def switched (letter : Char) (settings : List Char) (old : Bool) : Bool :=
  if letter ∈ settings.takeWhile (· != '-') then true
  else if letter ∈ settings then false
  else old

/-- The mode after switches have been set. -/
def switch (settings : List Char) (mode : PatternMode) : PatternMode where
  ignoresCase := switched 'i' settings mode.ignoresCase
  isUnicode := switched 'u' settings mode.isUnicode
  isSpaced := switched 'x' settings mode.isSpaced

/-- Whether a text is the name of a group. -/
def isGroupName : List Char → Bool
  | [] => false
  | c :: rest =>
    (c == '_' || isLetter c) &&
      rest.all fun c => c == '_' || c == '.' || c == '[' || c == ']' || isLetterOrDigit c

/-- What an opening parenthesis starts. -/
inductive Opening where
  /-- The rest of the group around it, in another mode. -/
  | switched (mode : PatternMode)
  /-- A group in a mode, which has a name if it is given one. -/
  | group (mode : PatternMode) (name : Option (List Char))

/-- Reads the name of a group in a mode. -/
def readName? (mode : PatternMode) (text : List Char) : Option (Opening × List Char) :=
  let name := text.takeWhile (· != '>')
  match text.dropWhile (· != '>') with
  | _ :: rest => if isGroupName name then some (.group mode (some name), rest) else none
  | [] => none

/-- Reads switches; each may be set once, and something follows a hyphen. -/
def readSwitches? (mode : PatternMode) (text : List Char) : Option (Opening × List Char) :=
  let settings := text.takeWhile fun c => c != ':' && c != ')'
  if settings.all (switches.contains ·) ∧ settings.Nodup ∧ settings.getLast? ≠ some '-' then
    match text.drop settings.length with
    | ':' :: rest => some (.group (switch settings mode) none, rest)
    | _ :: rest => if settings = [] then none else some (.switched (switch settings mode), rest)
    | [] => none
  else none

/-- Reads what stands behind an opening parenthesis before the group itself. What should stand
before or behind a match cannot be asked for. -/
def readOpening? (mode : PatternMode) (text : List Char) : Option (Opening × List Char) :=
  match mode.skip text with
  | '?' :: '!' :: _ => none
  | '?' :: '=' :: _ => none
  | '?' :: '<' :: '!' :: _ => none
  | '?' :: '<' :: '=' :: _ => none
  | '?' :: 'P' :: '<' :: rest => readName? mode rest
  | '?' :: '<' :: rest => readName? mode rest
  | '?' :: rest => readSwitches? mode rest
  | rest => some (.group mode none, rest)

/-! ## Rows and alternatives -/

/-- Reads a character that is not the start of anything else, and hands back what follows. -/
def readChar? (mode : PatternMode) : List Char → Option (List Char)
  | [] => none
  | '\\' :: rest => do
    let (escape, rest) ← PatternEscape.read? mode rest
    if escape.isAllowed mode then some rest else none
  | c :: rest =>
    let isAllowed :=
      if c = '.' then mode.isUnicode
      else c == '^' || c == '$' || mode.allowsChar false c
    if isAllowed then some rest else none

/-- How deep alternatives nest. Of the last one the parts are given from the last to the first, with
none for switches. -/
def levelsOfAll (alternatives : List Nat) (parts : List (Option Nat)) : Nat :=
  levelsOf (levelsOf (parts.map (·.getD 0)) :: alternatives)

/-- A text without the question mark that makes a repetition a short one. -/
def skipShort : List Char → List Char
  | '?' :: rest => rest
  | text => text

/-- Reads the alternatives of a group, with `fuel` for their parts: how deep they nest, the names of
groups so far, and what follows. -/
def readAlternatives? : (fuel : Nat) → PatternMode → (names : List (List Char)) →
    (alternatives : List Nat) → (parts : List (Option Nat)) → List Char →
    Option (Nat × List (List Char) × List Char)
  | 0, _, _, _, _, _ => none
  | fuel + 1, mode, names, alternatives, parts, text =>
    match mode.skip text with
    | [] => some (levelsOfAll alternatives parts, names, [])
    | ')' :: rest => some (levelsOfAll alternatives parts, names, ')' :: rest)
    | '(' :: rest =>
      match readOpening? mode rest with
      | none => none
      | some (.switched mode, rest) =>
        readAlternatives? fuel mode names alternatives (none :: parts) rest
      | some (.group inner name, rest) =>
        if name.any (names.contains ·) then none
        else
          match readAlternatives? fuel inner (name.toList ++ names) [] [] rest with
          | some (level, names, ')' :: rest) =>
            readAlternatives? fuel mode names alternatives (some (level + 1) :: parts) rest
          | _ => none
    | '|' :: rest =>
      let level := levelsOf (parts.map (·.getD 0))
      readAlternatives? fuel mode names (level :: alternatives) [] rest
    | '[' :: rest =>
      match PatternSet.read? mode rest with
      | none => none
      | some (level, rest) =>
        readAlternatives? fuel mode names alternatives (some level :: parts) rest
    | '\x7b' :: _ => none
    | c :: rest =>
      if c = '*' ∨ c = '+' ∨ c = '?' then
        match parts with
        | some level :: before =>
          readAlternatives? fuel mode names alternatives (some (level + 1) :: before)
            (skipShort rest)
        | _ => none
      else
        match readChar? mode (c :: rest) with
        | none => none
        | some rest => readAlternatives? fuel mode names alternatives (some 0 :: parts) rest

/-- How deep patterns may nest. -/
def maxLevels : Nat := 250

end Pattern

/-- Whether a text is a pattern. -/
def isPattern (text : List Char) : Bool :=
  match Pattern.readAlternatives? (2 * text.length + 2) {} [] [] [] text with
  | some (level, _, []) => decide (level ≤ Pattern.maxLevels)
  | _ => false

end Criteria

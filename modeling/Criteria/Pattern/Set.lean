import Criteria.Pattern.Basic

/-!
# Sets of characters in patterns

A set stands in brackets: characters, ranges of them, named classes, and other sets, of which the
members outside of a second operand or outside of the set can be meant.

## Main definitions

* `Criteria.PatternSet.read?` — a set is read over, and how deep it nests is handed back.
* `Criteria.levelsOf` — how deep parts nest that stand side by side.
-/

set_option autoImplicit false
set_option relaxedAutoImplicit false

namespace Criteria

/-- How deep parts nest that stand side by side, from how deep each of them does: one part is not
nested any deeper for standing alone. -/
def levelsOf : List Nat → Nat
  | [] => 0
  | [level] => level
  | levels => levels.foldr max 0 + 1

namespace PatternSet

/-- The names of classes. -/
def classNames : List String :=
  ["alnum", "alpha", "ascii", "blank", "cntrl", "digit", "graph", "lower", "print", "punct",
    "space", "upper", "word", "xdigit"]

/-- Reads a class by its name, of which the opening bracket has been read: whether the characters
outside of it are meant, and what follows it. -/
def readName? (text : List Char) : Option (Bool × List Char) :=
  match text with
  | ':' :: rest =>
    let (negated, rest) : Bool × List Char :=
      match rest with
      | '^' :: rest => (true, rest)
      | _ => (false, rest)
    match rest.dropWhile (· != ':') with
    | ':' :: ']' :: behind =>
      if classNames.contains (String.ofList (rest.takeWhile (· != ':'))) then
        some (negated, behind)
      else none
    | _ => none
  | _ => none

/-! ## Members -/

/-- Reads a member, a character or a class that is escaped. -/
def readMember? (mode : PatternMode) : List Char → Option (PatternEscape × List Char)
  | [] => none
  | '\\' :: rest => PatternEscape.read? mode rest
  | c :: rest => some (.char false c, rest)

/-- Whether a member may stand in a set. -/
def allows (mode : PatternMode) : PatternEscape → Bool
  | .char _ c => mode.allowsMember c
  | .class_ negated => mode.allowsClass negated
  | _ => false

/-- The character behind a hyphen, which tells whether the hyphen is that of a range. In a gap
before it only the mark of a comment is passed over, and the gap counts if nothing follows it. -/
def peek? (mode : PatternMode) (text : List Char) : Option Char :=
  if mode.isSpaced then
    let behind :=
      match text.dropWhile isBlank with
      | '#' :: rest => rest.dropWhile isBlank
      | rest => rest
    behind.head?.or text.head?
  else text.head?

/-- Reads a member or a range of characters, and hands back what follows. -/
def readRange? (mode : PatternMode) (text : List Char) : Option (List Char) := do
  let (low, rest) ← readMember? mode text
  if !allows mode low then none
  else
    match mode.skip rest with
    | [] => none
    | '-' :: rest =>
      if peek? mode rest = some ']' ∨ peek? mode rest = some '-' then some ('-' :: rest)
      else do
        let (high, rest) ← readMember? mode (mode.skip rest)
        match low, high with
        | .char _ low, .char _ high =>
          if mode.allowsMember high ∧ low ≤ high then some rest else none
        | _, _ => none
    | rest => some rest

/-! ## Sets -/

/-- Reads the hyphens at the start of a set, of which there are at most `fuel`: how many there are,
and what follows. -/
def readHyphens (mode : PatternMode) : (fuel : Nat) → List Char → Nat × List Char
  | fuel + 1, '-' :: rest =>
    let (count, rest) := readHyphens mode fuel (mode.skip rest)
    (count + 1, rest)
  | _, text => (0, text)

/-- Reads the start of a set, of which the opening bracket has been read: how deep each of its first
members nests, and what follows. Hyphens or a closing bracket that come first are members. -/
def readStart? (mode : PatternMode) (text : List Char) : Option (List Nat × List Char) :=
  let (negated, text) : Bool × List Char :=
    match mode.skip text with
    | '^' :: rest => (true, mode.skip rest)
    | rest => (false, rest)
  let (hyphens, rest) := readHyphens mode text.length text
  let (members, rest) : Nat × List Char :=
    match hyphens, rest with
    | 0, ']' :: rest => (1, mode.skip rest)
    | _, rest => (hyphens, rest)
  if negated && !mode.allowsNegation then none
  else if members != 0 && !mode.allowsMember '-' then none
  else some (List.replicate members 0, rest)

/-- How deep an operand nests together with those before it. -/
def joinLevels (earlier : Option Nat) (members : List Nat) : Nat :=
  match earlier with
  | none => levelsOf members
  | some level => max level (levelsOf members) + 1

/-- Reads a set up to its closing bracket, with `fuel` for its parts: how deep it nests, and what
follows. The operands before the current one nest `earlier` deep, and `members` are those of the
current one. -/
def readRest? (mode : PatternMode) : (fuel : Nat) → (earlier : Option Nat) → (members : List Nat) →
    List Char → Option (Nat × List Char)
  | 0, _, _, _ => none
  | fuel + 1, earlier, members, text =>
    match mode.skip text with
    | [] => none
    | ']' :: rest => some (joinLevels earlier members + 1, rest)
    | '&' :: '&' :: rest => readRest? mode fuel (some (joinLevels earlier members)) [] rest
    | '-' :: '-' :: rest => readRest? mode fuel (some (joinLevels earlier members)) [] rest
    | '~' :: '~' :: rest => readRest? mode fuel (some (joinLevels earlier members)) [] rest
    | '[' :: rest =>
      match readName? rest with
      | some (negated, rest) =>
        if mode.allowsName negated then readRest? mode fuel earlier (0 :: members) rest else none
      | none =>
        match readStart? mode rest with
        | none => none
        | some (inner, rest) =>
          match readRest? mode fuel none inner rest with
          | none => none
          | some (level, rest) => readRest? mode fuel earlier (level :: members) rest
    | rest =>
      match readRange? mode rest with
      | none => none
      | some rest => readRest? mode fuel earlier (0 :: members) rest

/-- Reads a set, of which the opening bracket has been read: how deep it nests, and what follows. -/
def read? (mode : PatternMode) (text : List Char) : Option (Nat × List Char) :=
  match readStart? mode text with
  | none => none
  | some (members, rest) => readRest? mode (text.length + 1) none members rest

end PatternSet

end Criteria

import Criteria.Text.Blank
import Criteria.Text.Hex

/-!
# Single characters of patterns

A pattern describes texts: it is made of characters that stand for themselves, of classes of
characters, and of what joins and repeats them. What a character of a pattern may be depends on
switches that are set within the pattern itself.

## Main definitions

* `Criteria.PatternMode` — the switches.
* `Criteria.PatternMode.skip` — the gap between two parts of a pattern.
* `Criteria.PatternEscape`, `Criteria.PatternEscape.read?` — what stands behind a backslash.

## Implementation notes

Classes of letters, digits and blanks, the edges of words, and pairs of small and capital letters
are known for ASCII only, that is, while the switch for Unicode is off. While it is off, a pattern
must not describe single bytes that are no characters.
-/

set_option autoImplicit false
set_option relaxedAutoImplicit false

namespace Criteria

/-- The switches that decide what may stand in a pattern. -/
structure PatternMode where
  /-- Small and capital letters are the same. -/
  ignoresCase : Bool := false
  /-- Characters are those of Unicode, and not only those of ASCII. -/
  isUnicode : Bool := true
  /-- Blanks and comments may stand between the parts. -/
  isSpaced : Bool := false
  deriving DecidableEq

namespace PatternMode

/-- A text without the blanks and comments at its start; `comment` tells whether it starts inside
a comment. -/
def skipBlanks : (comment : Bool) → List Char → List Char
  | _, [] => []
  | true, c :: rest => skipBlanks (c != '\n') rest
  | false, c :: rest =>
    if isBlank c then skipBlanks false rest
    else if c = '#' then skipBlanks true rest
    else c :: rest

/-- A text without the gap at its start, if there may be one. -/
def skip (mode : PatternMode) (text : List Char) : List Char :=
  if mode.isSpaced then skipBlanks false text else text

/-- Whether a character may stand for itself. One that is given as a byte has to be of ASCII when
the pattern is not in Unicode. -/
def allowsChar (mode : PatternMode) (isByte : Bool) (c : Char) : Bool :=
  if mode.isUnicode then !mode.ignoresCase else !isByte || c.toNat < 0x80

/-- Whether a character may stand for itself in a set. -/
def allowsMember (mode : PatternMode) (c : Char) : Bool :=
  if mode.isUnicode then !mode.ignoresCase else c.toNat < 0x80

/-- Whether the characters outside of a class may be meant. -/
def allowsNegation (mode : PatternMode) : Bool := mode.isUnicode

/-- Whether a class of ASCII letters, digits or blanks may stand by its letter. -/
def allowsClass (mode : PatternMode) (negated : Bool) : Bool := !mode.isUnicode && !negated

/-- Whether a class of ASCII characters may stand by its name in a set. -/
def allowsName (mode : PatternMode) (negated : Bool) : Bool :=
  if mode.isUnicode then !mode.ignoresCase else !negated

end PatternMode

/-! ## Escapes -/

/-- What stands behind a backslash. -/
inductive PatternEscape where
  /-- A character, given as a byte if `isByte` holds. -/
  | char (isByte : Bool) (c : Char)
  /-- A class of letters, digits or blanks, or the characters outside of it. -/
  | class_ (negated : Bool)
  /-- An end of the text. -/
  | border
  /-- An edge of a word. -/
  | edge

namespace PatternEscape

/-- Reads the hexadecimal digits of a character, with gaps behind them. -/
def readDigits? (mode : PatternMode) : (count : Nat) → List Char → Option (List Char × List Char)
  | 0, text => some ([], text)
  | _ + 1, [] => none
  | count + 1, c :: rest =>
    if (hexValue? c).isSome then
      (readDigits? mode count (mode.skip rest)).map fun (digits, rest) => (c :: digits, rest)
    else none

/-- Reads a character that is given by `count` hexadecimal digits. -/
def readNumbered? (mode : PatternMode) (isByte : Bool) (count : Nat) (text : List Char) :
    Option (PatternEscape × List Char) := do
  let (digits, rest) ← readDigits? mode count (mode.skip text)
  let n ← hexNumber? digits
  if n.isValidChar then some (.char isByte (Char.ofNat n), rest) else none

/-- What a single character behind a backslash is. ASCII characters but letters, digits and angle
brackets stand for themselves. -/
def ofChar? (c : Char) : Option PatternEscape :=
  if c = 'd' ∨ c = 's' ∨ c = 'w' then some (.class_ false)
  else if c = 'D' ∨ c = 'S' ∨ c = 'W' then some (.class_ true)
  else if c = 'A' ∨ c = 'z' then some .border
  else if c = 'b' ∨ c = 'B' ∨ c = '<' ∨ c = '>' then some .edge
  else if c = 'a' then some (.char false '\x07')
  else if c = 'f' then some (.char false '\x0c')
  else if c = 't' then some (.char false '\t')
  else if c = 'n' then some (.char false '\n')
  else if c = 'r' then some (.char false '\r')
  else if c = 'v' then some (.char false '\x0b')
  else if c.toNat < 0x80 ∧ !c.isAlphanum then some (.char false c)
  else none

/-- Reads what stands behind a backslash. -/
def read? (mode : PatternMode) : List Char → Option (PatternEscape × List Char)
  | [] => none
  | 'x' :: rest => readNumbered? mode true 2 rest
  | 'u' :: rest => readNumbered? mode false 4 rest
  | 'U' :: rest => readNumbered? mode false 8 rest
  | c :: rest => (ofChar? c).map fun escape => (escape, rest)

/-- Whether an escape may stand outside of sets. -/
def isAllowed (mode : PatternMode) : PatternEscape → Bool
  | .char isByte c => mode.allowsChar isByte c
  | .class_ negated => mode.allowsClass negated
  | .border => true
  | .edge => !mode.isUnicode

end PatternEscape

end Criteria

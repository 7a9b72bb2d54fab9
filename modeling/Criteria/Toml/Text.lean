import Criteria.Text.Hex

/-!
# Texts and keys of TOML

What stands between the parts of a TOML text, the texts in quotation marks, and the keys.

## Main definitions

* `Criteria.Toml.skipGaps` — blanks, line ends and comments are skipped.
* `Criteria.Toml.readText?` — a text in quotation marks of either kind, on one line or on several.
* `Criteria.Toml.readPath?` — keys with points between them.

## Implementation notes

What is not allowed in a comment is left in front of what follows it, where nothing can start with
it, so that `skipGaps` needs no failure of its own.
-/

set_option autoImplicit false
set_option relaxedAutoImplicit false

namespace Criteria.Toml

/-! ## Gaps -/

/-- Whether a character is a blank within a line. -/
def isSpace (c : Char) : Bool := c == ' ' || c == '\t'

/-- Whether a character may stand neither in a comment nor in a text. -/
def isControl (c : Char) : Bool := (c.toNat < 0x20 && c != '\t') || c.toNat == 0x7f

/-- A text without the blanks at its start. -/
def skipSpaces (text : List Char) : List Char := text.dropWhile isSpace

/-- A text without the blanks, line ends and comments at its start; `comment` tells whether it
starts inside a comment. -/
def skipGaps : (comment : Bool) → List Char → List Char
  | _, [] => []
  | _, '\n' :: rest => skipGaps false rest
  | _, '\r' :: '\n' :: rest => skipGaps false rest
  | true, c :: rest => if isControl c then c :: rest else skipGaps true rest
  | false, c :: rest =>
    if isSpace c then skipGaps false rest
    else if c = '#' then skipGaps true rest
    else c :: rest

/-- What follows the line, of which only blanks and a comment may be left. -/
def endLine? (text : List Char) : Option (List Char) :=
  let text := skipSpaces text
  let text := match text with
    | '#' :: comment => comment.dropWhile (!isControl ·)
    | _ => text
  match text with
  | [] => some []
  | '\n' :: rest => some rest
  | '\r' :: '\n' :: rest => some rest
  | _ => none

/-! ## Texts in quotation marks -/

/-- The character that a short escape stands for. -/
def shortEscape? (c : Char) : Option Char :=
  if c = '"' ∨ c = '\\' then some c
  else if c = 'b' then some '\x08'
  else if c = 't' then some '\t'
  else if c = 'n' then some '\n'
  else if c = 'f' then some '\x0c'
  else if c = 'r' then some '\r'
  else if c = 'e' then some '\x1b'
  else none

/-- The character with the number that hexadecimal digits are. -/
def numbered? (digits : List Char) : Option Char := do
  let n ← hexNumber? digits
  if n.isValidChar then some (Char.ofNat n) else none

/-- Reads an escape, of which the backslash has been read. -/
def readEscape? : List Char → Option (Char × List Char)
  | [] => none
  | 'x' :: a :: b :: rest => (numbered? [a, b]).map fun c => (c, rest)
  | 'u' :: a :: b :: c :: d :: rest => (numbered? [a, b, c, d]).map fun c => (c, rest)
  | 'U' :: a :: b :: c :: d :: e :: f :: g :: h :: rest =>
    (numbered? [a, b, c, d, e, f, g, h]).map fun c => (c, rest)
  | c :: rest => (shortEscape? c).map fun c => (c, rest)

/-- Reads what folds a line, of which the backslash has been read: a line end, and all blanks and
line ends around it. -/
def readFold? (text : List Char) : Option (List Char) :=
  match skipSpaces text with
  | '\n' :: rest => some (skip rest)
  | '\r' :: '\n' :: rest => some (skip rest)
  | _ => none
where
  /-- A text without the blanks and line ends at its start. -/
  skip : List Char → List Char
    | [] => []
    | '\r' :: '\n' :: rest => skip rest
    | c :: rest => if isSpace c || c == '\n' then skip rest else c :: rest

/-- What is left of the text within the marks if its end is here, and what follows it. On one line
the mark ends the text; on several lines three marks do, of which up to two more may come first. -/
def readEnd? (mark : Char) (lines : Bool) (text : List Char) : Option (List Char × List Char) :=
  if lines then
    let marks := (text.takeWhile (· == mark)).length
    if marks < 3 then none
    else
      let inside := min (marks - 3) 2
      some (List.replicate inside mark, text.drop (inside + 3))
  else
    match text with
    | c :: rest => if c = mark then some ([], rest) else none
    | [] => none

/-- Reads what stands for itself: a character, or a line end in a text on several lines. -/
def readPlain? (lines : Bool) : List Char → Option (List Char × List Char)
  | [] => none
  | '\r' :: '\n' :: rest => if lines then some (['\r', '\n'], rest) else none
  | c :: rest =>
    if isControl c && !(lines && c == '\n') then none else some ([c], rest)

/-- Reads the rest of a text up to its closing mark, with `fuel` for at most that many parts. Only
double quotation marks go with escapes. -/
def readBody? (mark : Char) (lines : Bool) :
    (fuel : Nat) → List Char → Option (List Char × List Char)
  | 0, _ => none
  | fuel + 1, text =>
    match readEnd? mark lines text with
    | some result => some result
    | none =>
      match text with
      | '\\' :: rest =>
        if mark = '"' then
          match if lines then readFold? rest else none with
          | some rest => readBody? mark lines fuel rest
          | none => do
            let (c, rest) ← readEscape? rest
            let (body, rest) ← readBody? mark lines fuel rest
            some (c :: body, rest)
        else do
          let (body, rest) ← readBody? mark lines fuel rest
          some ('\\' :: body, rest)
      | _ => do
        let (plain, rest) ← readPlain? lines text
        let (body, rest) ← readBody? mark lines fuel rest
        some (plain ++ body, rest)

/-- Reads a text of which the first mark has been read. Two more marks mean that it is on several
lines; a line end right behind them is left off. -/
def readText? (mark : Char) (text : List Char) : Option (List Char × List Char) :=
  if [mark, mark].isPrefixOf text then
    let body := match text.drop 2 with
      | '\n' :: rest => rest
      | '\r' :: '\n' :: rest => rest
      | rest => rest
    readBody? mark true (text.length + 1) body
  else readBody? mark false (text.length + 1) text

/-! ## Keys -/

/-- Whether a character may stand in a key without quotation marks. -/
def isKeyChar (c : Char) : Bool := c.isAlphanum || c == '_' || c == '-'

/-- Reads one key. -/
def readKey? : List Char → Option (List Char × List Char)
  | '"' :: rest => readBody? '"' false (rest.length + 1) rest
  | '\'' :: rest => readBody? '\'' false (rest.length + 1) rest
  | text =>
    let key := text.takeWhile isKeyChar
    if key = [] then none else some (key, text.dropWhile isKeyChar)

/-- Keys, the last of which is kept apart. -/
abbrev Path := List String × String

/-- How deep sections and lists may be nested by one value, and by the keys of one line. -/
def maxLevels : Nat := 80

/-- Reads keys with points between them, of which there are at most `fuel`. -/
def readKeys? : (fuel : Nat) → List Char → Option (Path × List Char)
  | 0, _ => none
  | fuel + 1, text => do
    let (key, rest) ← readKey? (skipSpaces text)
    match skipSpaces rest with
    | '.' :: rest =>
      let ((path, last), rest) ← readKeys? fuel rest
      some ((String.ofList key :: path, last), rest)
    | rest => some (([], String.ofList key), rest)

/-- Reads keys that do not lead too deep. -/
def readPath? (text : List Char) : Option (Path × List Char) :=
  (readKeys? text.length text).filter fun (path, _) => path.1.length < maxLevels

end Criteria.Toml

import Criteria.Toml.Moment
import Criteria.Toml.Number
import Criteria.Toml.Table
import Criteria.Toml.Text

/-!
# Values of TOML

What stands behind an equals sign: a text, a truth value, a number, a moment, a list, or a section
in braces.

## Main definitions

* `Criteria.Toml.ofWord?` — the value that a word without quotation marks is.
* `Criteria.Toml.readValue?` — a value, and what follows it.

## Implementation notes

Lists and sections in braces may be nested `maxLevels` deep; every reader is given the number of
levels that are left.
-/

set_option autoImplicit false
set_option relaxedAutoImplicit false

namespace Criteria.Toml

/-! ## Words -/

/-- Whether a character can stand in a value without quotation marks. -/
def isWordChar (c : Char) : Bool := isKeyChar c || c == '+' || c == '.' || c == ':'

/-- The value that a word is. A moment is kept as its text. -/
def ofWord? (word : List Char) : Option Setting :=
  if word = ['t', 'r', 'u', 'e'] then some (.bool true)
  else if word = ['f', 'a', 'l', 's', 'e'] then some (.bool false)
  else
    match readInteger? word, readFloat? word with
    | some i, _ => some (.int i)
    | none, some n => some (.float n)
    | none, none => (readMoment? word).map fun moment => .text (String.ofList moment)

/-- Reads a word. Behind a date one blank and a time belong to it. -/
def readWord (text : List Char) : List Char × List Char :=
  let word := text.takeWhile isWordChar
  let rest := text.dropWhile isWordChar
  match rest with
  | ' ' :: c :: time =>
    if isDate word && c.isDigit then
      (word ++ ' ' :: (c :: time).takeWhile isWordChar, (c :: time).dropWhile isWordChar)
    else (word, rest)
  | _ => (word, rest)

/-! ## Values -/

mutual

/-- Reads a value of at most `fuel` parts. -/
def readValue? : (fuel levels : Nat) → List Char → Option (Setting × List Char)
  | 0, _, _ => none
  | fuel + 1, levels, text =>
    match text, levels with
    | '"' :: rest, _ =>
      (readText? '"' rest).map fun (text, rest) => (.text (String.ofList text), rest)
    | '\'' :: rest, _ =>
      (readText? '\'' rest).map fun (text, rest) => (.text (String.ofList text), rest)
    | '[' :: rest, levels + 1 =>
      (readItems? fuel levels (skipGaps false rest)).map fun (items, rest) => (.list items, rest)
    | '{' :: rest, levels + 1 =>
      (readMembers? fuel levels .empty (skipGaps false rest)).map
        fun (node, rest) => (node.setting, rest)
    | _, _ =>
      let (word, rest) := readWord text
      (ofWord? word).map fun value => (value, rest)

/-- Reads the items of a list up to its end; a comma may stand behind the last one. -/
def readItems? : (fuel levels : Nat) → List Char → Option (List Setting × List Char)
  | 0, _, _ => none
  | fuel + 1, levels, text =>
    match text with
    | ']' :: rest => some ([], rest)
    | _ =>
      match readValue? fuel levels text with
      | none => none
      | some (item, rest) =>
        match skipGaps false rest with
        | ']' :: rest => some ([item], rest)
        | ',' :: rest =>
          (readItems? fuel levels (skipGaps false rest)).map
            fun (items, rest) => (item :: items, rest)
        | _ => none

/-- Reads the rest of a section in braces up to its end; a comma may stand behind the last
member. -/
def readMembers? : (fuel levels : Nat) → Node → List Char → Option (Node × List Char)
  | 0, _, _, _ => none
  | fuel + 1, levels, node, text =>
    match text with
    | '}' :: rest => some (node, rest)
    | _ =>
      match readPath? text with
      | none => none
      | some ((path, key), rest) =>
        match skipGaps false rest with
        | '=' :: rest =>
          match readValue? fuel levels (skipGaps false rest) with
          | none => none
          | some (value, rest) =>
            match node.assign? path key value with
            | none => none
            | some node =>
              match skipGaps false rest with
              | '}' :: rest => some (node, rest)
              | ',' :: rest => readMembers? fuel levels node (skipGaps false rest)
              | _ => none
        | _ => none

end

end Criteria.Toml

import Criteria.Settings.Layer
import Criteria.Toml.Value

/-!
# Files of TOML

A file is lines: assignments of values to keys, and headers that open the section to which the
assignments below them belong.

## Main definitions

* `Criteria.Toml.Line` — what a line says.
* `Criteria.Toml.readFile?` — the section that a whole file is.
* `Criteria.Layer.ofToml?` — the layer that a file is.
-/

set_option autoImplicit false
set_option relaxedAutoImplicit false

namespace Criteria

namespace Toml

/-- What a line says. -/
inductive Line where
  /-- A section is opened. -/
  | header (path : List String) (key : String)
  /-- A section is opened at the end of a list. -/
  | item (path : List String) (key : String)
  /-- A value is assigned in the section that is open. -/
  | assignment (path : List String) (key : String) (setting : Setting)

/-- Reads a line. -/
def readLine? (text : List Char) : Option (Line × List Char) :=
  match text with
  | '[' :: '[' :: rest =>
    match readPath? rest with
    | some ((path, key), ']' :: ']' :: rest) =>
      (endLine? rest).map fun rest => (.item path key, rest)
    | _ => none
  | '[' :: rest =>
    match readPath? rest with
    | some ((path, key), ']' :: rest) =>
      (endLine? rest).map fun rest => (.header path key, rest)
    | _ => none
  | _ =>
    match readPath? text with
    | some ((path, key), '=' :: rest) =>
      match readValue? text.length maxLevels (skipSpaces rest) with
      | none => none
      | some (setting, rest) =>
        (endLine? rest).map fun rest => (.assignment path key setting, rest)
    | _ => none

/-- A file as far as it has been read: the keys of the section that is open, and all sections. -/
structure Progress where
  /-- The section that is open. -/
  current : List String
  /-- All sections. -/
  root : Node

/-- A file with one more line. -/
def Progress.add? (progress : Progress) : Line → Option Progress
  | .header path key =>
    (progress.root.openSection? path key).map fun root => ⟨path ++ [key], root⟩
  | .item path key => (progress.root.openItem? path key).map fun root => ⟨path ++ [key], root⟩
  | .assignment path key setting =>
    (progress.root.assignWithin? progress.current path key setting).map
      fun root => ⟨progress.current, root⟩

/-- Reads the lines of a file, of which there are at most `fuel`. -/
def readLines? : (fuel : Nat) → Progress → List Char → Option Node
  | 0, _, _ => none
  | fuel + 1, progress, text =>
    match skipGaps false text with
    | [] => some progress.root
    | text =>
      match readLine? text with
      | none => none
      | some (line, rest) =>
        match progress.add? line with
        | none => none
        | some progress => readLines? fuel progress rest

/-- The mark that may stand before the first character of a file. -/
def byteOrderMark : Char := '\ufeff'

/-- A text without the mark that may stand before it. -/
def skipMark : List Char → List Char
  | [] => []
  | c :: rest => if c = byteOrderMark then rest else c :: rest

/-- The section that a whole file is. -/
def readFile? (text : String) : Option Node :=
  readLines? (text.length + 1) ⟨[], .empty⟩ (skipMark text.toList)

end Toml

/-- The layer that a file is. -/
def Layer.ofToml? (text : String) : Option Layer :=
  (Toml.readFile? text).map fun root => root.setting.entries

end Criteria

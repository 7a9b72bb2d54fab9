import Criteria.Settings.Layer

/-!
# Settings from the environment

A variable whose name starts with the mark of settings is an assignment. Two underscores in its
name lead into a section, and its value is read as what it looks like.

## Main definitions

* `Criteria.Setting.ofVariable` — the setting that the value of a variable is.
* `Criteria.Layer.nameOfVariable?` — the name that a variable assigns to.
* `Criteria.Layer.ofVariables` — the layer that all variables are.
-/

set_option autoImplicit false
set_option relaxedAutoImplicit false

namespace Criteria

/-- The setting that the value of a variable is: a truth value if it is the word for one in any
case, else a whole number, else a number, else the text that it is. -/
def Setting.ofVariable (value : String) : Setting :=
  let text := value.toList
  let word := text.map Char.toLower
  if word = ['t', 'r', 'u', 'e'] then .bool true
  else if word = ['f', 'a', 'l', 's', 'e'] then .bool false
  else
    match intOfText? text with
    | some i => .int i
    | none =>
      match Number.read? text with
      | some n => .float n
      | none => .text value

namespace Layer

/-- What the names of variables for settings start with, in any case. -/
def mark : List Char := ['r', 'u', 'l', 'e', '_']

/-- A name in which two underscores have become a point. -/
def separate : List Char → List Char
  | '_' :: '_' :: rest => '.' :: separate rest
  | c :: rest => c :: separate rest
  | [] => []

/-- The name that a variable assigns to, in lower case, if it starts with the mark of settings. -/
def nameOfVariable? (variable_ : String) : Option String :=
  let name := variable_.toList.map Char.toLower
  if mark.isPrefixOf name then some (String.ofList (separate (name.drop mark.length))) else none

/-- The layer that the variables of the environment are. -/
def ofVariables (vars : List (String × String)) : Layer :=
  vars.filterMap fun (name, value) =>
    (nameOfVariable? name).map fun name => (name, .ofVariable value)

end Layer

end Criteria

import Criteria.Settings.Setting

/-!
# Addresses of settings

The name of an assignment leads to a place among the settings: a key, and from there by further
keys into sections and by numbers into lists.

## Main definitions

* `Criteria.Address` — the addresses.
* `Criteria.Address.ofName` — the address that a name is.
* `Criteria.Setting.update` — a value with another one at an address.

## Implementation notes

An address always leads somewhere: what is in its way gives way to a section or a list, and a list
grows, at its start for a number below zero, until it has the place.
-/

set_option autoImplicit false
set_option relaxedAutoImplicit false

namespace Criteria

/-- A step from a value into one of its parts. -/
inductive Step where
  /-- To the part of a section with a name. -/
  | key (name : String)
  /-- To an item of a list, by its place from the start, or from the end below zero. -/
  | index (i : Int)
  deriving DecidableEq

/-- A place among the settings. -/
structure Address where
  /-- The key that it starts with. -/
  root : String
  /-- The steps from there. -/
  steps : List Step
  deriving DecidableEq

/-! ## Names -/

namespace Address

/-- Whether a character may stand in a key of an address. -/
def isKeyChar (c : Char) : Bool := c.isAlphanum || c == '_' || c == '-'

/-- Whether a character is a blank beside a number. -/
def isSpace (c : Char) : Bool := c == ' ' || c == '\t'

/-- Reads a key, which is not empty. -/
def readKey? (text : List Char) : Option (String × List Char) :=
  let key := text.takeWhile isKeyChar
  if key = [] then none else some (String.ofList key, text.dropWhile isKeyChar)

/-- Reads a number and the bracket behind it; blanks may stand around the number. -/
def readIndex? (text : List Char) : Option (Int × List Char) :=
  let text := text.dropWhile isSpace
  let (sign, digits) : List Char × List Char :=
    match text with
    | '-' :: rest => (['-'], rest)
    | _ => ([], text)
  match (digits.dropWhile Char.isDigit).dropWhile isSpace with
  | ']' :: rest =>
    (Setting.intOfText? (sign ++ digits.takeWhile Char.isDigit)).map fun i => (i, rest)
  | _ => none

/-- Reads the steps behind a key, of which there are at most `fuel`: keys behind points, and
numbers in brackets. -/
def readSteps? : (fuel : Nat) → List Char → Option (List Step)
  | _, [] => some []
  | fuel + 1, '.' :: rest =>
    match readKey? rest with
    | none => none
    | some (key, rest) => (readSteps? fuel rest).map (.key key :: ·)
  | fuel + 1, '[' :: rest =>
    match readIndex? rest with
    | none => none
    | some (i, rest) => (readSteps? fuel rest).map (.index i :: ·)
  | _, _ => none

/-- The address that a name is written as. -/
def read? (name : String) : Option Address :=
  match readKey? name.toList with
  | none => none
  | some (root, rest) => (readSteps? rest.length rest).map fun steps => { root, steps }

/-- The address that a name is. A name that is not written as one is a key. -/
def ofName (name : String) : Address := (read? name).getD ⟨name, []⟩

end Address

/-! ## Updates -/

namespace Setting

/-- Entries with another value under a key, which is added at the end if it is missing. -/
def updateKey (key : String) (change : Setting → Setting) :
    List (String × Setting) → List (String × Setting)
  | [] => [(key, change .nothing)]
  | entry :: rest =>
    if entry.1 = key then (key, change entry.2) :: rest else entry :: updateKey key change rest

/-- A list with another item at a place, up to which it is filled if it is shorter. -/
def updateItem (change : Setting → Setting) : (place : Nat) → List Setting → List Setting
  | 0, [] => [change .nothing]
  | 0, item :: rest => change item :: rest
  | place + 1, [] => .nothing :: updateItem change place []
  | place + 1, item :: rest => item :: updateItem change place rest

/-- A list with another item at the place that a number stands for. A number below zero counts
from the end, and the list is filled at its start if it is shorter. -/
def updateIndex (i : Int) (change : Setting → Setting) (items : List Setting) : List Setting :=
  let fromStart := if i < 0 then items.length + i else i
  if 0 ≤ fromStart then updateItem change fromStart.toNat items
  else updateItem change 0 (List.replicate (-fromStart).toNat .nothing ++ items)

/-- A value with another one where steps lead. -/
def update (change : Setting → Setting) : List Step → Setting → Setting
  | [], setting => change setting
  | .key name :: steps, setting => .table (updateKey name (update change steps) setting.entries)
  | .index i :: steps, setting => .list (updateIndex i (update change steps) setting.items)

/-- All settings, with another value at an address. -/
def updateAt (address : Address) (change : Setting → Setting) (settings : Setting) : Setting :=
  settings.update change (.key address.root :: address.steps)

end Setting

end Criteria

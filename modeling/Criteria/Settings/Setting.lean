import Criteria.Number.Shortest

/-!
# What a setting can be given

The values that settings are given by files and by the environment, before it is known what they
are wanted for, and what each of them stands for where a text, a truth value or a number is wanted.

## Main definitions

* `Criteria.Setting` — the values, of which equality is decided by `Criteria.Setting.same`.
* `Criteria.Setting.toText?`, `Criteria.Setting.toBool?`, `Criteria.Setting.toNat?` — a value as
  what is wanted.
* `Criteria.Setting.field?` — a part of a section.
-/

set_option autoImplicit false
set_option relaxedAutoImplicit false

namespace Criteria

/-- A value that a setting can be given. -/
inductive Setting where
  /-- No value yet. -/
  | nothing
  /-- A truth value. -/
  | bool (b : Bool)
  /-- A whole number. -/
  | int (i : Int)
  /-- A number with a fraction. -/
  | float (n : Number)
  /-- A text. -/
  | text (s : String)
  /-- A list. -/
  | list (items : List Setting)
  /-- A section, in which values stand under names. -/
  | table (entries : List (String × Setting))

namespace Setting

/-- The items of a list; other values have none. -/
def items : Setting → List Setting
  | .list items => items
  | _ => []

/-- The entries of a section; other values have none. -/
def entries : Setting → List (String × Setting)
  | .table entries => entries
  | _ => []

/-! ## Equality -/

mutual

/-- Whether two settings are the same. -/
def same : Setting → Setting → Bool
  | .nothing, .nothing => true
  | .bool b, .bool b' => b == b'
  | .int i, .int i' => i == i'
  | .float n, .float n' => n == n'
  | .text s, .text s' => s == s'
  | .list items, .list items' => sameItems items items'
  | .table entries, .table entries' => sameEntries entries entries'
  | _, _ => false

/-- Whether the items of two lists are the same. -/
def sameItems : List Setting → List Setting → Bool
  | [], [] => true
  | item :: items, item' :: items' => item.same item' && sameItems items items'
  | _, _ => false

/-- Whether the entries of two sections are the same. -/
def sameEntries : List (String × Setting) → List (String × Setting) → Bool
  | [], [] => true
  | (name, value) :: entries, (name', value') :: entries' =>
    name == name' && value.same value' && sameEntries entries entries'
  | _, _ => false

end

mutual

theorem same_iff : ∀ {a b : Setting}, a.same b = true ↔ a = b
  | .nothing, b | .bool _, b | .int _, b | .float _, b | .text _, b => by
    cases b <;> simp [same]
  | .list items, b => by cases b <;> simp [same, sameItems_iff]
  | .table entries, b => by cases b <;> simp [same, sameEntries_iff]

theorem sameItems_iff : ∀ {items items' : List Setting},
    sameItems items items' = true ↔ items = items'
  | [], items' => by cases items' <;> simp [sameItems]
  | item :: items, items' => by cases items' <;> simp [sameItems, same_iff, sameItems_iff]

theorem sameEntries_iff : ∀ {entries entries' : List (String × Setting)},
    sameEntries entries entries' = true ↔ entries = entries'
  | [], entries' => by cases entries' <;> simp [sameEntries]
  | _ :: _, [] => by simp [sameEntries]
  | (_, _) :: _, (_, _) :: _ => by simp [sameEntries, same_iff, sameEntries_iff, and_assoc]

end

instance : DecidableEq Setting := fun _ _ => decidable_of_iff _ same_iff

/-! ## Texts, truth values and numbers -/

/-- A setting as a text: truth values and numbers are written out. -/
def toText? : Setting → Option String
  | .bool b => some (if b then "true" else "false")
  | .int i => some (toString i)
  | .float n => some n.text
  | .text s => some s
  | _ => none

/-- The truth value that a word stands for. -/
def boolOfWord? (word : String) : Option Bool :=
  if word ∈ ["1", "true", "on", "yes"] then some true
  else if word ∈ ["0", "false", "off", "no"] then some false
  else none

/-- A setting as a truth value: numbers are false if they are zero. -/
def toBool? : Setting → Option Bool
  | .bool b => some b
  | .int i => some (i != 0)
  | .float n => some (!n.equals .zero)
  | .text s => boolOfWord? (String.ofList (s.toList.map Char.toLower))
  | _ => none

/-- The largest natural number that a setting can be, `2⁶⁴ - 1`. -/
def maxNat : Nat := 18446744073709551615

/-- The least whole number that a setting can be, `-2⁶³`. -/
def minInt : Int := -9223372036854775808

/-- The largest whole number that a setting with a sign can be, `2⁶³ - 1`. -/
def maxInt : Int := 9223372036854775807

/-- The natural number nearest to a number, half away from zero; numbers out of range become
the nearest bound, and what is not a number becomes zero. -/
def roundToNat : Number → Nat
  | .nan => 0
  | .signed true _ => 0
  | .signed false m =>
    min maxNat ((2 * m.units + Magnitude.unitsPerOne) / (2 * Magnitude.unitsPerOne))

/-- The natural number that a text is: digits, with an optional plus sign. -/
def natOfText? (text : List Char) : Option Nat :=
  let digits := match text with
    | '+' :: rest => rest
    | _ => text
  if digits ≠ [] ∧ digits.all Char.isDigit then
    let n := Nat.ofDigitChars 10 digits 0
    if n ≤ maxNat then some n else none
  else none

/-- The whole number of 64 bits that a text is: digits, with an optional sign. -/
def intOfText? (text : List Char) : Option Int :=
  let (negative, digits) := Numeral.readSign text
  if digits ≠ [] ∧ digits.all Char.isDigit then
    let n : Int := Nat.ofDigitChars 10 digits 0
    let i := if negative then -n else n
    if minInt ≤ i ∧ i ≤ maxInt then some i else none
  else none

/-- A setting as a natural number: truth values count as one and zero, and so do the words for
them. -/
def toNat? : Setting → Option Nat
  | .bool b => some b.toNat
  | .int i => if 0 ≤ i then some i.toNat else none
  | .float n => some (roundToNat n)
  | .text s =>
    let word := String.ofList (s.toList.map Char.toLower)
    if word ∈ ["true", "on", "yes"] then some 1
    else if word ∈ ["false", "off", "no"] then some 0
    else natOfText? s.toList
  | _ => none

/-- A setting as a port, a number below `2¹⁶`. -/
def toPort? (setting : Setting) : Option Nat :=
  setting.toNat?.filter (· < 65536)

/-! ## Parts of sections -/

/-- The part of a section with a name. A section can also be given as the list of its parts, in
which the part has the place `index`; any other value is no section. -/
def field? (index : Nat) (name : String) : Setting → Option (Option Setting)
  | .table entries => some (entries.lookup name)
  | .list items => some items[index]?
  | _ => none

/-- Reads a part of a section, or takes its default if there is no such part. -/
def readField? {α : Type} (section_ : Setting) (index : Nat) (name : String)
    (read? : Setting → Option α) (default : α) : Option α :=
  match section_.field? index name with
  | none => none
  | some none => some default
  | some (some setting) => read? setting

end Setting

end Criteria

/-!
# JSON values

The values that answers are made of, and their compact text.

## Main definitions

* `Criteria.Json` — the values; members keep their order.
* `Criteria.Json.escape` — a text as it stands between quotation marks.
* `Criteria.Json.text` — a value without any blanks.
-/

set_option autoImplicit false
set_option relaxedAutoImplicit false

namespace Criteria

/-- A JSON value. The numbers of answers are whole. -/
inductive Json where
  /-- The value `null`. -/
  | null
  /-- A truth value. -/
  | bool (b : Bool)
  /-- A whole number. -/
  | int (i : Int)
  /-- A text. -/
  | string (s : String)
  /-- A list. -/
  | array (items : List Json)
  /-- Members, each a name and a value. -/
  | object (members : List (String × Json))

namespace Json

/-- The hexadecimal digit for a number below sixteen. -/
def hexDigit (n : Nat) : Char := Nat.digitChar n

/-- A character as it stands between quotation marks: a control character has a short escape
or one with four digits. -/
def escapeChar (c : Char) : List Char :=
  if c = '"' then ['\\', '"']
  else if c = '\\' then ['\\', '\\']
  else if c = '\x08' then ['\\', 'b']
  else if c = '\x0c' then ['\\', 'f']
  else if c = '\n' then ['\\', 'n']
  else if c = '\r' then ['\\', 'r']
  else if c = '\t' then ['\\', 't']
  else if c.toNat < 0x20 then
    ['\\', 'u', '0', '0', hexDigit (c.toNat / 16), hexDigit (c.toNat % 16)]
  else [c]

/-- A text as it stands between quotation marks. -/
def escape (text : List Char) : List Char := text.flatMap escapeChar

/-- A text with its quotation marks. -/
def quote (text : String) : List Char := '"' :: (escape text.toList ++ ['"'])

mutual

/-- The characters of a value. -/
def chars : Json → List Char
  | .null => ['n', 'u', 'l', 'l']
  | .bool true => ['t', 'r', 'u', 'e']
  | .bool false => ['f', 'a', 'l', 's', 'e']
  | .int i => (toString i).toList
  | .string s => quote s
  | .array items => '[' :: (itemChars items ++ [']'])
  | .object members => '{' :: (memberChars members ++ ['}'])

/-- The characters of the items of a list. -/
def itemChars : List Json → List Char
  | [] => []
  | [item] => item.chars
  | item :: rest => item.chars ++ ',' :: itemChars rest

/-- The characters of the members of an object. -/
def memberChars : List (String × Json) → List Char
  | [] => []
  | [(name, value)] => quote name ++ ':' :: value.chars
  | (name, value) :: rest => quote name ++ ':' :: (value.chars ++ ',' :: memberChars rest)

end

/-- The compact text of a value. -/
def text (value : Json) : String := String.ofList value.chars

end Json

end Criteria

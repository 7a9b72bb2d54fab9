import Criteria.Number.Numeral
import Criteria.Text.Hex

/-!
# Reading JSON text

A text is read as JSON as far as it is JSON. What has been read is a draft: a value in which
the place where the text stops being JSON is marked. Whoever wants something particular looks
at a draft from its start, so that the first thing wrong with a text decides, whether it is
no JSON at all or only not what was wanted.

## Main definitions

* `Criteria.Draft` — the drafts.
* `Criteria.Draft.read` — the draft of a text, and what follows it.

## Implementation notes

Numbers keep their digits and texts their unpaired surrogates, since a member that nobody asks
for is only read over. `Draft.read` recurses on the length of the text; each call takes at
least one character.
-/

set_option autoImplicit false
set_option relaxedAutoImplicit false

namespace Criteria

/-- What could be read of a JSON text. -/
inductive Draft where
  /-- The value `null`. -/
  | null
  /-- A truth value. -/
  | bool (b : Bool)
  /-- A number, and whether it is written with whole digits alone. -/
  | number (numeral : Numeral) (isWhole : Bool)
  /-- A text, `none` if a surrogate in it has no partner. -/
  | string (text : Option String)
  /-- A list, and whether its end was reached. -/
  | array (items : List Draft) (closed : Bool)
  /-- Members, and whether their end was reached. -/
  | object (members : List (Option String × Draft)) (closed : Bool)
  /-- No JSON. -/
  | broken

namespace Draft

/-! ## Blanks, numbers and texts -/

/-- Whether a character may stand between the parts of a JSON text. -/
def isGap (c : Char) : Bool := c == ' ' || c == '\n' || c == '\t' || c == '\r'

/-- A text without the gap at its start. -/
def skipGap (text : List Char) : List Char := text.dropWhile isGap

/-- Reads the exponent of a number: a letter `e`, an optional sign and at least one digit, or
nothing if there is no such letter. -/
def readExponent? (text : List Char) : Option (Option Int × List Char) :=
  match text with
  | [] => some (none, [])
  | c :: rest =>
    if c = 'e' ∨ c = 'E' then
      let (negative, unsigned) := Numeral.readSign rest
      let digits := unsigned.takeWhile Char.isDigit
      let value : Int := Nat.ofDigitChars 10 digits 0
      if digits = [] then none
      else some (some (if negative then -value else value), unsigned.dropWhile Char.isDigit)
    else some (none, c :: rest)

/-- Reads the fraction of a number: a point and at least one digit, or nothing if there is no
point. -/
def readFraction? (text : List Char) : Option (List Char × List Char) :=
  match text with
  | '.' :: rest =>
    let digits := rest.takeWhile Char.isDigit
    if digits = [] then none else some (digits, rest.dropWhile Char.isDigit)
  | _ => some ([], text)

/-- Reads the whole digits of a number: a zero by itself, or digits that do not start with
one. -/
def readWhole? (text : List Char) : Option (List Char × List Char) :=
  let digits := text.takeWhile Char.isDigit
  match digits with
  | [] => none
  | '0' :: _ :: _ => none
  | _ => some (digits, text.dropWhile Char.isDigit)

/-- Reads a number. -/
def readNumber? (text : List Char) : Option (Draft × List Char) :=
  let (negative, unsigned) : Bool × List Char :=
    match text with
    | '-' :: rest => (true, rest)
    | _ => (false, text)
  match readWhole? unsigned with
  | none => none
  | some (whole, rest) =>
    match readFraction? rest with
    | none => none
    | some (fraction, rest) =>
      match readExponent? rest with
      | none => none
      | some (exponent, rest) =>
        let numeral : Numeral := { negative, whole, fraction, exponent := exponent.getD 0 }
        some (.number numeral (fraction = [] ∧ exponent = none), rest)

/-- A part of a text between quotation marks. -/
inductive Piece where
  /-- A character. -/
  | char (c : Char)
  /-- A code unit that was written with four digits. -/
  | unit (n : Nat)
  deriving DecidableEq

/-- The code unit that four hexadecimal digits are. -/
def unit? (a b c d : Char) : Option Nat := hexNumber? [a, b, c, d]

/-- The character that a short escape stands for. -/
def shortEscape? (c : Char) : Option Char :=
  if c = '"' ∨ c = '\\' ∨ c = '/' then some c
  else if c = 'b' then some '\x08'
  else if c = 'f' then some '\x0c'
  else if c = 'n' then some '\n'
  else if c = 'r' then some '\r'
  else if c = 't' then some '\t'
  else none

/-- Reads up to the closing quotation mark. -/
def readPieces? : List Char → Option (List Piece × List Char)
  | [] => none
  | '"' :: rest => some ([], rest)
  | '\\' :: 'u' :: a :: b :: c :: d :: rest =>
    match unit? a b c d with
    | none => none
    | some n => (readPieces? rest).map fun (pieces, rest) => (.unit n :: pieces, rest)
  | '\\' :: c :: rest =>
    match shortEscape? c with
    | none => none
    | some c => (readPieces? rest).map fun (pieces, rest) => (.char c :: pieces, rest)
  | c :: rest =>
    if c = '\\' ∨ c.toNat < 0x20 then none
    else (readPieces? rest).map fun (pieces, rest) => (.char c :: pieces, rest)

/-- The characters that pieces are: code units by themselves, and a high surrogate together
with the low one right behind it. -/
def assemble? : List Piece → Option (List Char)
  | [] => some []
  | .char c :: rest => (assemble? rest).map (c :: ·)
  | .unit high :: .unit low :: rest =>
    if 0xD800 ≤ high ∧ high ≤ 0xDBFF then
      if 0xDC00 ≤ low ∧ low ≤ 0xDFFF then
        (assemble? rest).map (Char.ofNat (0x10000 + (high - 0xD800) * 0x400 + (low - 0xDC00)) :: ·)
      else none
    else if 0xDC00 ≤ high ∧ high ≤ 0xDFFF then none
    else (assemble? (.unit low :: rest)).map (Char.ofNat high :: ·)
  | .unit n :: rest =>
    if 0xD800 ≤ n ∧ n ≤ 0xDFFF then none else (assemble? rest).map (Char.ofNat n :: ·)

/-- Reads a text, of which the opening quotation mark has been read. -/
def readString? (text : List Char) : Option (Option String × List Char) :=
  (readPieces? text).map fun (pieces, rest) => ((assemble? pieces).map String.ofList, rest)

/-! ## Values -/

/-- A draft, and what follows it; nothing does if the text stopped being JSON. -/
abbrev Outcome (α : Type) := α × Option (List Char)

mutual

/-- Reads a value, with `fuel` for at most that many parts. -/
def readValue : (fuel : Nat) → List Char → Outcome Draft
  | 0, _ => (.broken, none)
  | fuel + 1, text =>
    match skipGap text with
    | 'n' :: 'u' :: 'l' :: 'l' :: rest => (.null, some rest)
    | 't' :: 'r' :: 'u' :: 'e' :: rest => (.bool true, some rest)
    | 'f' :: 'a' :: 'l' :: 's' :: 'e' :: rest => (.bool false, some rest)
    | '"' :: rest =>
      match readString? rest with
      | none => (.broken, none)
      | some (text, rest) => (.string text, some rest)
    | '[' :: rest =>
      match skipGap rest with
      | ']' :: rest => (.array [] true, some rest)
      | [] => (.array [] false, none)
      | rest =>
        let (items, rest) := readItems fuel rest
        (.array items rest.isSome, rest)
    | '{' :: rest =>
      match skipGap rest with
      | '}' :: rest => (.object [] true, some rest)
      | rest =>
        let (members, rest) := readMembers fuel rest
        (.object members rest.isSome, rest)
    | rest =>
      match readNumber? rest with
      | none => (.broken, none)
      | some (draft, rest) => (draft, some rest)

/-- Reads the items of a list up to its end, of which there is at least one. -/
def readItems : (fuel : Nat) → List Char → Outcome (List Draft)
  | 0, _ => ([], none)
  | fuel + 1, text =>
    let (item, rest) := readValue fuel text
    match rest.map skipGap with
    | some (']' :: rest) => ([item], some rest)
    | some (',' :: rest) =>
      match skipGap rest with
      | [] => ([item], none)
      | ']' :: _ => ([item], none)
      | rest =>
        let (items, rest) := readItems fuel rest
        (item :: items, rest)
    | _ => ([item], none)

/-- Reads the members of an object up to its end, of which there is at least one. -/
def readMembers : (fuel : Nat) → List Char → Outcome (List (Option String × Draft))
  | 0, _ => ([], none)
  | fuel + 1, text =>
    match skipGap text with
    | '"' :: rest =>
      match readString? rest with
      | none => ([], none)
      | some (name, rest) =>
        match skipGap rest with
        | ':' :: rest =>
          let (value, rest) := readValue fuel rest
          match rest.map skipGap with
          | some ('}' :: rest) => ([(name, value)], some rest)
          | some (',' :: rest) =>
            let (members, rest) := readMembers fuel rest
            ((name, value) :: members, rest)
          | _ => ([(name, value)], none)
        | _ => ([(name, .broken)], none)
    | _ => ([], none)

end

/-- The draft of the value at the start of a text, and what follows it. -/
def read (text : List Char) : Outcome Draft := readValue (text.length + 1) text

end Draft

end Criteria

import Criteria.Number.Basic

/-!
# Decimal numerals

Numbers written in decimal: the grammar of a numeral, the exact decimal it denotes, and the
number nearest to that decimal.

## Main definitions

* `Criteria.Decimal` — `coefficient · 10 ^ exponent`, and `Criteria.Decimal.nearest`, the
  magnitude nearest to it.
* `Criteria.Numeral` — a sign, whole digits, fraction digits and an exponent.
* `Criteria.Numeral.read?` — the numeral that a whole text is: an optional sign, digits with
  at most one point among or around them, and an optional exponent.
* `Criteria.Number.read?` — the number that a text denotes, the words for infinity and for
  `nan` included.

## Implementation notes

A decimal far outside the range of the format is decided by its order of magnitude alone, so
that a long exponent costs no more than a short one.
-/

set_option autoImplicit false
set_option relaxedAutoImplicit false

namespace Criteria

/-- The exact decimal `coefficient · 10 ^ exponent`. -/
structure Decimal where
  /-- The digits, read as a natural number. -/
  coefficient : Nat
  /-- The power of ten by which they are scaled. -/
  exponent : Int
  deriving DecidableEq

namespace Decimal

/-- The magnitude nearest to a decimal. A coefficient that is not zero is at least one and
has at most `log2 coefficient + 1` digits, so the two guards decide decimals beyond the
largest finite magnitude and below half the smallest. -/
def nearest (d : Decimal) : Magnitude :=
  if d.coefficient = 0 then .zero
  else if 400 < d.exponent then .infinite
  else if d.exponent + (d.coefficient.log2 + 1 : Nat) < -400 then .zero
  else if 0 ≤ d.exponent then .nearest (d.coefficient * Nat.pow 10 d.exponent.toNat) 1
  else .nearest d.coefficient (Nat.pow 10 (-d.exponent).toNat)

end Decimal

/-- A numeral taken apart. -/
structure Numeral where
  /-- Whether it starts with a minus sign. -/
  negative : Bool
  /-- The digits before the point. -/
  whole : List Char
  /-- The digits after the point. -/
  fraction : List Char
  /-- The exponent, zero if none is written. -/
  exponent : Int
  deriving DecidableEq

namespace Numeral

/-- The decimal that the unsigned part of a numeral denotes. -/
def decimal (n : Numeral) : Decimal where
  coefficient := Nat.ofDigitChars 10 (n.whole ++ n.fraction) 0
  exponent := n.exponent - n.fraction.length

/-- The number nearest to what the numeral denotes. -/
def number (n : Numeral) : Number := .signed n.negative n.decimal.nearest

/-- Reads an optional sign; `true` stands for minus. -/
def readSign : List Char → Bool × List Char
  | '-' :: rest => (true, rest)
  | '+' :: rest => (false, rest)
  | rest => (false, rest)

/-- Reads the exponent that ends a numeral: nothing, or a letter `e`, an optional sign and at
least one digit, all the way to the end. -/
def readExponent? : List Char → Option Int
  | [] => some 0
  | c :: rest =>
    if c = 'e' ∨ c = 'E' then
      let (negative, digits) := readSign rest
      if digits ≠ [] ∧ digits.all Char.isDigit then
        let value : Int := Nat.ofDigitChars 10 digits 0
        some (if negative then -value else value)
      else none
    else none

/-- Splits the point and the digits after it off a text; without a point nothing is taken. -/
def readFraction : List Char → List Char × List Char
  | '.' :: rest => (rest.takeWhile Char.isDigit, rest.dropWhile Char.isDigit)
  | rest => ([], rest)

/-- The numeral that a text is as a whole. At least one digit stands before or after the
point. -/
def read? (text : List Char) : Option Numeral :=
  let (negative, unsigned) := readSign text
  let whole := unsigned.takeWhile Char.isDigit
  let (fraction, rest) := readFraction (unsigned.dropWhile Char.isDigit)
  if whole = [] ∧ fraction = [] then none
  else (readExponent? rest).map fun exponent => { negative, whole, fraction, exponent }

end Numeral

namespace Number

/-- The number written as a word, in lower case and without a sign. -/
def ofWord? (negative : Bool) (word : String) : Option Number :=
  if word = "inf" ∨ word = "infinity" then some (.signed negative .infinite)
  else if word = "nan" then some .nan
  else none

/-- The number that a text denotes: a numeral, or a word for infinity or for `nan` in any
case, with an optional sign. -/
def read? (text : List Char) : Option Number :=
  match Numeral.read? text with
  | some numeral => some numeral.number
  | none =>
    let (negative, word) := Numeral.readSign text
    ofWord? negative (String.ofList (word.map Char.toLower))

end Number

end Criteria

import Criteria.Settings.Setting
import Criteria.Text.Hex

/-!
# Numbers of TOML

Whole numbers in four bases and numbers with a fraction or an exponent, both with underscores
between their digits.

## Main definitions

* `Criteria.Toml.readInteger?` — a whole number of 64 bits.
* `Criteria.Toml.readFloat?` — a number with a fraction or an exponent, or a word for one.
-/

set_option autoImplicit false
set_option relaxedAutoImplicit false

namespace Criteria.Toml

/-- The digits of a number, in which underscores may stand between two digits. -/
def plainDigits? (isDigit : Char → Bool) : List Char → Option (List Char)
  | [] => none
  | [c] => if isDigit c then some [c] else none
  | c :: '_' :: rest => if isDigit c then (plainDigits? isDigit rest).map (c :: ·) else none
  | c :: rest => if isDigit c then (plainDigits? isDigit rest).map (c :: ·) else none

/-- Whether a number starts with a zero that it does not need. -/
def hasLeadingZero : List Char → Bool
  | '0' :: _ :: _ => true
  | _ => false

/-- The decimal digits of a whole number. -/
def wholeDigits? (text : List Char) : Option (List Char) :=
  (plainDigits? Char.isDigit text).filter (!hasLeadingZero ·)

/-- The number that digits of a base are. -/
def basedNumber? (isDigit : Char → Bool) (base : Nat) (text : List Char) : Option Nat := do
  let digits ← plainDigits? isDigit text
  digits.foldlM (fun n c => (hexValue? c).map (n * base + ·)) 0

/-- The natural number that a text is. -/
def readNatural? : List Char → Option Nat
  | '0' :: 'x' :: rest => basedNumber? (fun c => (hexValue? c).isSome) 16 rest
  | '0' :: 'o' :: rest => basedNumber? (fun c => '0' ≤ c ∧ c ≤ '7') 8 rest
  | '0' :: 'b' :: rest => basedNumber? (fun c => c = '0' ∨ c = '1') 2 rest
  | text => (wholeDigits? text).map (Nat.ofDigitChars 10 · 0)

/-- A whole number of 64 bits. A sign goes with decimal digits only. -/
def readInteger? (text : List Char) : Option Int := do
  let (negative, unsigned) := Numeral.readSign text
  let n ← if unsigned = text then readNatural? text
    else (wholeDigits? unsigned).map (Nat.ofDigitChars 10 · 0)
  let i : Int := if negative then -n else n
  if Setting.minInt ≤ i ∧ i ≤ Setting.maxInt then some i else none

/-- Reads the exponent that ends a number, zero if there is none. -/
def readExponent? : List Char → Option Int
  | [] => some 0
  | c :: rest =>
    if c = 'e' ∨ c = 'E' then do
      let (negative, unsigned) := Numeral.readSign rest
      let digits ← plainDigits? Char.isDigit unsigned
      let value : Int := Nat.ofDigitChars 10 digits 0
      some (if negative then -value else value)
    else none

/-- Whether a character can stand among the digits of a number. -/
def isDigitOrUnderscore (c : Char) : Bool := c.isDigit || c == '_'

/-- The numeral that a text with a fraction or an exponent is. -/
def readNumeral? (text : List Char) : Option Numeral := do
  let (negative, unsigned) := Numeral.readSign text
  let whole ← wholeDigits? (unsigned.takeWhile isDigitOrUnderscore)
  match unsigned.dropWhile isDigitOrUnderscore with
  | '.' :: rest =>
    let fraction ← plainDigits? Char.isDigit (rest.takeWhile isDigitOrUnderscore)
    let exponent ← readExponent? (rest.dropWhile isDigitOrUnderscore)
    some { negative, whole, fraction, exponent }
  | [] => none
  | rest =>
    let exponent ← readExponent? rest
    some { negative, whole, fraction := [], exponent }

/-- A number with a fraction or an exponent, or one of the words for infinity and for what is not a
number. Digits never stand for infinity. -/
def readFloat? (text : List Char) : Option Number :=
  let (negative, unsigned) := Numeral.readSign text
  if unsigned = ['i', 'n', 'f'] then some (.signed negative .infinite)
  else if unsigned = ['n', 'a', 'n'] then some .nan
  else ((readNumeral? text).map Numeral.number).filter Number.isFinite

end Criteria.Toml

/-!
# Moments of TOML

Dates and times of day. They are checked against the calendar and kept as texts of one form.

## Main definitions

* `Criteria.Toml.isDate` — whether a text is a date.
* `Criteria.Toml.readMoment?` — the form of a date, of a time, or of both with or without an offset.

## Implementation notes

The form has the letter `T` between date and time, no zeros behind the last digit of a fraction but
one, nine digits at most, and no sign before an offset of zero but a plus.
-/

set_option autoImplicit false
set_option relaxedAutoImplicit false

namespace Criteria.Toml

/-- The number that two digits are, if it lies between bounds. -/
def pair? (a b : Char) (least most : Nat) : Option Nat :=
  if a.isDigit && b.isDigit then
    let n := Nat.ofDigitChars 10 [a, b] 0
    if least ≤ n ∧ n ≤ most then some n else none
  else none

/-- How many days a month has. -/
def daysInMonth (year month : Nat) : Nat :=
  if month = 2 then
    if year % 4 = 0 ∧ (year % 100 ≠ 0 ∨ year % 400 = 0) then 29 else 28
  else if month = 4 ∨ month = 6 ∨ month = 9 ∨ month = 11 then 30
  else 31

/-- Reads a date: a year of four digits, a month and a day. -/
def readDate? : List Char → Option (List Char × List Char)
  | y₁ :: y₂ :: y₃ :: y₄ :: '-' :: m₁ :: m₂ :: '-' :: d₁ :: d₂ :: rest =>
    let year := [y₁, y₂, y₃, y₄]
    if year.all Char.isDigit then do
      let month ← pair? m₁ m₂ 1 12
      let _ ← pair? d₁ d₂ 1 (daysInMonth (Nat.ofDigitChars 10 year 0) month)
      some (year ++ ['-', m₁, m₂, '-', d₁, d₂], rest)
    else none
  | _ => none

/-- Whether a text is a date. -/
def isDate (text : List Char) : Bool :=
  match readDate? text with
  | some (_, rest) => rest == []
  | none => false

/-- The digits of a fraction that are kept. -/
def trimFraction (digits : List Char) : List Char :=
  let kept := ((digits.take 9).reverse.dropWhile (· == '0')).reverse
  if kept = [] then ['0'] else kept

/-- Reads the fraction of a second, if there is one. -/
def readFraction? : List Char → Option (List Char × List Char)
  | '.' :: rest =>
    let digits := rest.takeWhile Char.isDigit
    if digits = [] then none else some ('.' :: trimFraction digits, rest.dropWhile Char.isDigit)
  | rest => some ([], rest)

/-- Reads a time: an hour, a minute, and a second unless it is left off. -/
def readTime? : List Char → Option (List Char × List Char)
  | h₁ :: h₂ :: ':' :: m₁ :: m₂ :: rest => do
    let _ ← pair? h₁ h₂ 0 23
    let _ ← pair? m₁ m₂ 0 59
    let minutes := [h₁, h₂, ':', m₁, m₂]
    match rest with
    | ':' :: s₁ :: s₂ :: rest =>
      let _ ← pair? s₁ s₂ 0 60
      let (fraction, rest) ← readFraction? rest
      some (minutes ++ [':', s₁, s₂] ++ fraction, rest)
    | rest => some (minutes, rest)
  | _ => none

/-- Reads an offset from universal time, which ends a text. -/
def readOffset? : List Char → Option (List Char)
  | [] => some []
  | [c] => if c = 'Z' ∨ c = 'z' then some ['Z'] else none
  | [sign, h₁, h₂, ':', m₁, m₂] =>
    if sign = '+' ∨ sign = '-' then do
      let hours ← pair? h₁ h₂ 0 23
      let minutes ← pair? m₁ m₂ 0 59
      let sign := if hours = 0 ∧ minutes = 0 then '+' else sign
      some [sign, h₁, h₂, ':', m₁, m₂]
    else none
  | _ => none

/-- The form of a moment. An offset goes with a date and a time. -/
def readMoment? (text : List Char) : Option (List Char) :=
  match readDate? text with
  | some (date, []) => some date
  | some (date, separator :: rest) =>
    if separator = 'T' ∨ separator = 't' ∨ separator = ' ' then do
      let (time, rest) ← readTime? rest
      let offset ← readOffset? rest
      some (date ++ 'T' :: time ++ offset)
    else none
  | none =>
    match readTime? text with
    | some (time, []) => some time
    | _ => none

end Criteria.Toml

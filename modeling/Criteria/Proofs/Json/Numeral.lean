import Criteria.Proofs.Json.Text
import Criteria.Proofs.Number.Text

/-!
# Numerals of JSON texts

The numbers of the JSON grammar are written as numerals, and they are numerals of rules as well: as
a part of either text they are taken apart in the same way.

## Main definitions

* `Criteria.Numeral.ExponentText` — the texts of an exponent.
* `Criteria.Numeral.IsJson` — a numeral and a number of the JSON grammar that spells it.

## Main results

* `Criteria.Numeral.IsJson.read?_eq` — the number is read as the numeral in a rule.
* `Criteria.Numeral.IsJson.exists_readNumber?` — the number is read as the numeral in a JSON text.
-/

set_option autoImplicit false
set_option relaxedAutoImplicit false

namespace Criteria

namespace Numeral

/-! ## The grammar -/

/-- The texts of an exponent: nothing, or a letter, a sign that may be left off, and digits. -/
inductive ExponentText : List Char → Int → Prop where
  /-- There is no exponent. -/
  | none : ExponentText [] 0
  /-- There is no sign. -/
  | unsigned {letter : Char} {digits : List Char} (hletter : letter = 'e' ∨ letter = 'E')
      (hne : digits ≠ []) (hdigits : ∀ c ∈ digits, c.isDigit = true) :
      ExponentText (letter :: digits) (Nat.ofDigitChars 10 digits 0)
  /-- There is a plus sign. -/
  | plus {letter : Char} {digits : List Char} (hletter : letter = 'e' ∨ letter = 'E')
      (hne : digits ≠ []) (hdigits : ∀ c ∈ digits, c.isDigit = true) :
      ExponentText (letter :: '+' :: digits) (Nat.ofDigitChars 10 digits 0)
  /-- There is a minus sign. -/
  | minus {letter : Char} {digits : List Char} (hletter : letter = 'e' ∨ letter = 'E')
      (hne : digits ≠ []) (hdigits : ∀ c ∈ digits, c.isDigit = true) :
      ExponentText (letter :: '-' :: digits) (-(Nat.ofDigitChars 10 digits 0 : Int))

/-- A number of the JSON grammar and the numeral that it spells: a minus sign or none, a zero or
digits that do not start with one, a point and digits or neither, and an exponent. -/
structure IsJson (n : Numeral) (text : List Char) : Prop where
  /-- Digits stand before the point. -/
  whole_ne_nil : n.whole ≠ []
  /-- A zero in front is the only digit before the point. -/
  eq_nil_of_zero : ∀ rest, n.whole = '0' :: rest → rest = []
  /-- They are digits, and so are those behind the point. -/
  isDigit : ∀ c ∈ n.whole ++ n.fraction, c.isDigit = true
  /-- The parts stand one behind the other. -/
  text_eq : ∃ exponent, ExponentText exponent n.exponent ∧
    text = signed n.negative (n.whole ++ (Decimal.pointed n.fraction ++ exponent))

namespace ExponentText

variable {text : List Char} {exponent : Int}

/-- The text of an exponent continues neither the digits in front of it nor their point. -/
theorem head?_ne (h : ExponentText text exponent) :
    ∀ c ∈ text.head?, c.isDigit = false ∧ c ≠ '.' := by
  have hletter : ∀ letter : Char, letter = 'e' ∨ letter = 'E' →
      letter.isDigit = false ∧ letter ≠ '.' := by
    rintro letter (rfl | rfl) <;> decide
  cases h with
  | none => simp
  | unsigned h | plus h | minus h =>
    rintro c ⟨⟩
    exact hletter _ h

/-- The text of an exponent that is written starts with a letter, and its sign and its digits can be
told apart. -/
theorem readSign_eq (h : ExponentText text exponent) : (text = [] ∧ exponent = 0) ∨
    ∃ letter rest negative digits, text = letter :: rest ∧ (letter = 'e' ∨ letter = 'E') ∧
      readSign rest = (negative, digits) ∧ digits ≠ [] ∧ (∀ c ∈ digits, c.isDigit = true) ∧
      exponent = if negative then -(Nat.ofDigitChars 10 digits 0 : Int)
        else Nat.ofDigitChars 10 digits 0 := by
  cases h with
  | none => exact .inl ⟨rfl, rfl⟩
  | @unsigned letter digits hletter hne hdigits =>
    have hhead : ∀ c ∈ digits.head?, c.isDigit = true := fun c hc =>
      hdigits c (List.mem_of_mem_head? hc)
    exact .inr ⟨letter, digits, false, digits, rfl, hletter, readSign_signed false hhead, hne,
      hdigits, rfl⟩
  | @plus letter digits hletter hne hdigits =>
    exact .inr ⟨letter, _, false, digits, rfl, hletter, rfl, hne, hdigits, rfl⟩
  | @minus letter digits hletter hne hdigits =>
    exact .inr ⟨letter, _, true, digits, rfl, hletter, rfl, hne, hdigits, rfl⟩

/-- The text of an exponent is read as it in a rule. -/
theorem readExponent?_eq (h : ExponentText text exponent) : readExponent? text = some exponent := by
  rcases h.readSign_eq with ⟨rfl, rfl⟩ |
    ⟨letter, rest, negative, digits, rfl, hletter, hsign, hne, hdigits, rfl⟩
  · rfl
  · have hall : digits ≠ [] ∧ digits.all Char.isDigit = true :=
      ⟨hne, List.all_eq_true.mpr hdigits⟩
    rw [readExponent?, if_pos hletter, hsign]
    dsimp only
    rw [if_pos hall]

/-- The text of an exponent is read as it in a JSON text. -/
theorem exists_readExponent? (h : ExponentText text exponent) :
    ∃ read : Option Int, Draft.readExponent? text = some (read, []) ∧ read.getD 0 = exponent := by
  rcases h.readSign_eq with ⟨rfl, rfl⟩ |
    ⟨letter, rest, negative, digits, rfl, hletter, hsign, hne, hdigits, rfl⟩
  · exact ⟨Option.none, rfl, rfl⟩
  · refine ⟨some (if negative then -(Nat.ofDigitChars 10 digits 0 : Int)
      else Nat.ofDigitChars 10 digits 0), ?_, rfl⟩
    rw [Draft.readExponent?, if_pos hletter, hsign]
    dsimp only
    rw [List.takeWhile_eq_self_iff.mpr hdigits, List.dropWhile_eq_nil_iff.mpr hdigits, if_neg hne]

/-- The text of an exponent consists of digits, a letter and a sign. -/
theorem mem_cases (h : ExponentText text exponent) {c : Char} (hc : c ∈ text) :
    c.isDigit = true ∨ c ∈ ['e', 'E', '+', '-'] := by
  have hletter : ∀ letter : Char, letter = 'e' ∨ letter = 'E' → letter ∈ ['e', 'E', '+', '-'] := by
    rintro letter (rfl | rfl) <;> decide
  cases h with
  | none => exact absurd hc List.not_mem_nil
  | unsigned h hne hdigits =>
    rcases List.mem_cons.mp hc with rfl | hc
    · exact .inr (hletter _ h)
    · exact .inl (hdigits c hc)
  | plus h hne hdigits | minus h hne hdigits =>
    rcases List.mem_cons.mp hc with rfl | hc
    · exact .inr (hletter _ h)
    · rcases List.mem_cons.mp hc with rfl | hc
      · exact .inr (by decide)
      · exact .inl (hdigits c hc)

end ExponentText

/-! ## Both readers -/

namespace IsJson

variable {n : Numeral} {text : List Char}

theorem isDigit_whole (h : n.IsJson text) : ∀ c ∈ n.whole, c.isDigit = true :=
  fun c hc => h.isDigit c (List.mem_append_left _ hc)

theorem isDigit_fraction (h : n.IsJson text) : ∀ c ∈ n.fraction, c.isDigit = true :=
  fun c hc => h.isDigit c (List.mem_append_right _ hc)

/-- **The number is read as the numeral in a rule.** -/
theorem read?_eq (h : n.IsJson text) : read? text = some n := by
  obtain ⟨exponent, hexponent, rfl⟩ := h.text_eq
  exact read?_parts n.negative h.whole_ne_nil h.isDigit hexponent.head?_ne
    hexponent.readExponent?_eq

/-- The unsigned part of the number is read as the numeral in a JSON text. -/
theorem exists_readUnsigned? (h : n.IsJson text) {exponent : List Char}
    (hexponent : ExponentText exponent n.exponent) : ∃ isWhole,
    Draft.readUnsigned? n.negative (n.whole ++ (Decimal.pointed n.fraction ++ exponent)) =
      some (.number n isWhole, []) := by
  have hstop : ∀ c ∈ exponent.head?, c.isDigit = false := fun c hc => (hexponent.head?_ne c hc).1
  obtain ⟨htake, hdrop⟩ := run_append h.isDigit_whole (isDigit_head?_pointed hstop)
  have hwhole : Draft.readWhole? (n.whole ++ (Decimal.pointed n.fraction ++ exponent)) =
      some (n.whole, Decimal.pointed n.fraction ++ exponent) := by
    unfold Draft.readWhole?
    rw [htake, hdrop]
    dsimp only
    split
    · next hnil => exact absurd hnil h.whole_ne_nil
    · next hzero => exact absurd (h.eq_nil_of_zero _ hzero) (List.cons_ne_nil _ _)
    · rfl
  have hfraction : Draft.readFraction? (Decimal.pointed n.fraction ++ exponent) =
      some (n.fraction, exponent) := by
    unfold Decimal.pointed
    split
    case isTrue hnil =>
      rw [hnil, List.nil_append]
      unfold Draft.readFraction?
      split
      · exact absurd rfl (hexponent.head?_ne '.' rfl).2
      · rfl
    case isFalse hne =>
      obtain ⟨htake', hdrop'⟩ := run_append h.isDigit_fraction hstop
      rw [List.cons_append]
      change (if (n.fraction ++ exponent).takeWhile Char.isDigit = [] then none
        else some ((n.fraction ++ exponent).takeWhile Char.isDigit,
          (n.fraction ++ exponent).dropWhile Char.isDigit)) = _
      rw [htake', hdrop', if_neg hne]
  obtain ⟨read, hread, hvalue⟩ := hexponent.exists_readExponent?
  unfold Draft.readUnsigned?
  rw [hwhole]
  dsimp only
  rw [hfraction]
  dsimp only
  rw [hread]
  dsimp only
  rw [hvalue]
  exact ⟨_, rfl⟩

/-- **The number is read as the numeral in a JSON text.** -/
theorem exists_readNumber? (h : n.IsJson text) :
    ∃ isWhole, Draft.readNumber? text = some (.number n isWhole, []) := by
  obtain ⟨exponent, hexponent, rfl⟩ := h.text_eq
  obtain ⟨isWhole, hread⟩ := h.exists_readUnsigned? hexponent
  refine ⟨isWhole, ?_⟩
  cases hnegative : n.negative with
  | true =>
    rw [hnegative] at hread
    exact hread
  | false =>
    rw [hnegative] at hread
    obtain ⟨first, rest, hfirst⟩ := List.exists_cons_of_ne_nil h.whole_ne_nil
    have hdigit : first.isDigit = true := h.isDigit_whole first (by simp [hfirst])
    have hminus : first ≠ '-' := by
      rintro rfl
      exact absurd hdigit (by decide)
    rw [hfirst, List.cons_append] at hread ⊢
    exact (Draft.readNumber?_of_ne hminus _).trans hread

/-- The number consists of digits, signs, points and letters. -/
theorem mem_cases (h : n.IsJson text) {c : Char} (hc : c ∈ text) :
    c.isDigit = true ∨ c ∈ ['e', 'E', '+', '-', '.'] := by
  obtain ⟨exponent, hexponent, rfl⟩ := h.text_eq
  have hsplit : signed n.negative (n.whole ++ (Decimal.pointed n.fraction ++ exponent)) =
      signed n.negative (n.whole ++ Decimal.pointed n.fraction) ++ exponent := by
    cases n.negative <;> simp [signed]
  rw [hsplit] at hc
  rcases List.mem_append.mp hc with hc | hc
  · rcases mem_signed hc with rfl | rfl | hc
    · exact .inr (by decide)
    · exact .inr (by decide)
    · exact .inl (h.isDigit c hc)
  · rcases hexponent.mem_cases hc with hdigit | hother
    · exact .inl hdigit
    · refine .inr ?_
      revert hother
      simp only [List.mem_cons, List.not_mem_nil, or_false]
      tauto

/-- The number has a digit. -/
theorem any_isDigit (h : n.IsJson text) : text.any Char.isDigit = true := by
  obtain ⟨exponent, -, rfl⟩ := h.text_eq
  obtain ⟨first, rest, hfirst⟩ := List.exists_cons_of_ne_nil h.whole_ne_nil
  have hdigit : first.isDigit = true := h.isDigit_whole first (by simp [hfirst])
  rw [hfirst]
  cases n.negative <;> simp [signed, hdigit]

end IsJson

end Numeral

end Criteria

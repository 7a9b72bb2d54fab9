import Criteria.Number.Shortest
import Criteria.Proofs.Number.Grid
import Mathlib.Data.List.TakeWhile

/-!
# The text of a number reads back

The digits that are written for a finite number are a numeral, and that numeral is the number.

## Main definitions

* `Criteria.Decimal.expand` — a decimal without a positive exponent, of the same worth.
* `Criteria.Decimal.SpelledBy` — digits before and behind a point that spell a decimal.
* `Criteria.Decimal.pointed` — a point and the digits behind it, if there are any.
* `Criteria.Numeral.signed` — a text with or without a minus sign.

## Main results

* `Criteria.Magnitude.nearest_shortest` — the shortest decimal leads back to the magnitude.
* `Criteria.Decimal.exists_positional` — a decimal is written as digits, a point and digits.
* `Criteria.Numeral.read?_parts` — such a text, with or without an exponent behind it, is read as
  the numeral that it is.
* `Criteria.Number.exists_chars` — a finite number is written as a numeral that denotes it.
-/

set_option autoImplicit false
set_option relaxedAutoImplicit false

namespace Criteria

/-! ## The shortest decimal -/

namespace Magnitude

variable {m : Magnitude}

/-- A power of five and the same power of two make a power of ten. -/
theorem mul_pow_five (n k : Nat) : n * Nat.pow 5 k * Nat.pow 2 k = n * Nat.pow 10 k := by
  have hten : Nat.pow 10 k = Nat.pow 5 k * Nat.pow 2 k := Nat.mul_pow 5 2 k
  rw [hten, Nat.mul_assoc]

/-- A multiple of a power of five is not zero. -/
theorem mul_pow_five_ne_zero {n : Nat} (hn : 0 < n) (k : Nat) : n * Nat.pow 5 k ≠ 0 :=
  (Nat.mul_pos hn (Nat.pow_pos (by decide))).ne'

/-- A multiple of a power of five has at least as many binary digits. -/
theorem le_log2_mul_pow_five {n : Nat} (hn : 0 < n) (k : Nat) : k ≤ (n * Nat.pow 5 k).log2 := by
  rw [Nat.le_log2 (mul_pow_five_ne_zero hn k)]
  calc 2 ^ k ≤ Nat.pow 5 k := Nat.pow_le_pow_left (by decide) k
    _ ≤ n * Nat.pow 5 k := Nat.le_mul_of_pos_left _ hn

/-- A decimal with as many places as its coefficient has binary digits is not taken for zero:
it is rounded as the quotient that it is. -/
theorem nearest_places {coefficient places : Nat} (hcoefficient : coefficient ≠ 0)
    (hpos : 0 < places) (hlog : places ≤ coefficient.log2) :
    (⟨coefficient, -(places : Int)⟩ : Decimal).nearest =
      nearest coefficient (Nat.pow 10 places) := by
  unfold Decimal.nearest
  dsimp only
  rw [if_neg hcoefficient, if_neg (by omega), if_neg (by omega), if_neg (by omega),
    Int.neg_neg, Int.toNat_natCast]

/-- The exact decimal of a magnitude has as many places as a unit has binary places. -/
theorem exactDecimal_eq (m : Magnitude) : ∃ places, 0 < places ∧
    unitsPerOne = Nat.pow 2 places ∧
      m.exactDecimal = ⟨m.units * Nat.pow 5 places, -(places : Int)⟩ := by
  exact ⟨1074, by decide, rfl, rfl⟩

/-- The exact decimal of a magnitude leads back to it.

**Proof sketch.** The power of five in the coefficient keeps it clear of the bound below which a
decimal is taken for zero. What is left to round is the value itself. -/
theorem nearest_exactDecimal (hm : m.isFinite = true) (hrank : m.rank ≠ 0) :
    m.exactDecimal.nearest = m := by
  obtain ⟨places, hpos, hunit, hplaces⟩ := exactDecimal_eq m
  have hunits : 0 < m.units := units_pos hrank
  rw [hplaces, nearest_places (mul_pow_five_ne_zero hunits places) hpos
    (le_log2_mul_pow_five hunits places)]
  refine nearest_of_exact hm (pow_ten_pos places) ?_
  rw [hunit, mul_pow_five]

/-- A decimal that counts on a grid leads back. -/
theorem nearest_of_onGrid? {exponent : Int} {d : Decimal} (h : m.onGrid? exponent = some d) :
    d.nearest = m := by
  unfold onGrid? at h
  dsimp only at h
  split at h
  case h_1 hlower hupper =>
    split at h
    all_goals
      obtain rfl := Option.some.inj h
      first | exact beq_iff_eq.1 hlower | exact beq_iff_eq.1 hupper
  case h_2 hlower _ =>
    obtain rfl := Option.some.inj h
    exact beq_iff_eq.1 hlower
  case h_3 _ hupper =>
    obtain rfl := Option.some.inj h
    exact beq_iff_eq.1 hupper
  case h_4 => cases h

/-- What the search finds leads back, wherever it starts and however far it goes. -/
theorem nearest_search (hm : m.isFinite = true) (hrank : m.rank ≠ 0) (grids : Nat)
    (exponent : Int) : (m.search grids exponent).nearest = m := by
  induction grids generalizing exponent with
  | zero => exact nearest_exactDecimal hm hrank
  | succ grids ih =>
    rw [search]
    cases hgrid : m.onGrid? exponent with
    | none => exact ih (exponent - 1)
    | some d => exact nearest_of_onGrid? hgrid

/-- **The shortest decimal leads back to the magnitude.** -/
theorem nearest_shortest (hm : m.isFinite = true) : m.shortest.nearest = m := by
  unfold shortest
  split
  case isTrue hrank =>
    obtain ⟨rank, hle⟩ := m
    obtain rfl : rank = 0 := hrank
    rfl
  case isFalse hrank => exact nearest_search hm hrank 24 m.ceilingExponent

end Magnitude

/-! ## Decimals by position -/

namespace Decimal

/-- A decimal without a positive exponent: the power of ten goes into the coefficient. -/
def expand (d : Decimal) : Decimal :=
  ⟨d.coefficient * Nat.pow 10 d.exponent.toNat, -((-d.exponent).toNat : Int)⟩

/-- A decimal with a negative exponent keeps its coefficient when it is expanded. -/
theorem expand_of_neg {d : Decimal} (h : d.exponent < 0) :
    d.expand = ⟨d.coefficient, -((-d.exponent).toNat : Int)⟩ := by
  have hpower : Nat.pow 10 d.exponent.toNat = 1 := by
    rw [Int.toNat_of_nonpos (Int.le_of_lt h)]
  rw [expand, hpower, Nat.mul_one]

/-- A decimal that is near to a finite magnitude may be expanded first. -/
theorem nearest_expand {d : Decimal} (h : d.nearest.isFinite = true) :
    d.expand.nearest = d.nearest := by
  obtain ⟨coefficient, exponent⟩ := d
  rcases Int.lt_or_le exponent 0 with hneg | hnonneg
  · have hexponent : -((-exponent).toNat : Int) = exponent := by omega
    rw [expand_of_neg hneg, hexponent]
  · have hexponent : -((-exponent).toNat : Int) = 0 := by omega
    rcases Nat.eq_zero_or_pos coefficient with rfl | hpos
    · simp [expand, nearest]
    · have hbound : ¬ 400 < exponent := by
        intro hlarge
        have hinfinite : (⟨coefficient, exponent⟩ : Decimal).nearest = .infinite := by
          unfold nearest
          rw [if_neg (by simpa using hpos.ne'), if_pos hlarge]
        rw [hinfinite] at h
        exact absurd h (by decide)
      have hproduct : coefficient * Nat.pow 10 exponent.toNat ≠ 0 :=
        (Nat.mul_pos hpos (Magnitude.pow_ten_pos _)).ne'
      unfold nearest expand
      dsimp only
      rw [hexponent, if_neg hproduct, if_neg (by decide), if_neg (by omega), if_pos (by decide),
        if_neg hpos.ne', if_neg hbound, if_neg (by omega), if_pos hnonneg]
      simp

/-- A point and the digits behind it; without digits there is no point. -/
def pointed (fraction : List Char) : List Char := if fraction = [] then [] else '.' :: fraction

/-- The digits before and behind the point spell a decimal: there is one before the point, and
together they are the coefficient of the expanded decimal. -/
structure SpelledBy (d : Decimal) (whole fraction : List Char) : Prop where
  /-- A digit stands before the point. -/
  whole_ne_nil : whole ≠ []
  /-- They are digits. -/
  isDigit : ∀ c ∈ whole ++ fraction, c.isDigit = true
  /-- They are the coefficient, and those behind the point its places. -/
  expand_eq : d.expand = ⟨Nat.ofDigitChars 10 (whole ++ fraction) 0, -(fraction.length : Int)⟩

/-- The digits of the coefficient of a decimal. -/
def digits (d : Decimal) : List Char := Nat.toDigits 10 d.coefficient

/-- There is at least one digit. -/
theorem length_digits_pos (d : Decimal) : 0 < d.digits.length := Nat.length_toDigits_pos

/-- Every one of them is a decimal digit. -/
theorem isDigit_of_mem_digits {d : Decimal} {c : Char} (hc : c ∈ d.digits) : c.isDigit = true :=
  Nat.isDigit_of_mem_toDigits (by decide) (by decide) hc

/-- They are read as the coefficient. -/
theorem ofDigitChars_digits (d : Decimal) : Nat.ofDigitChars 10 d.digits 0 = d.coefficient :=
  Nat.ofDigitChars_ten_toDigits

/-- Without places behind the point, zeros are appended to the coefficient. -/
theorem spelledBy_zeros {d : Decimal} (h : 0 ≤ d.exponent) :
    d.SpelledBy (d.digits ++ List.replicate d.exponent.toNat '0') [] where
  whole_ne_nil :=
    List.append_ne_nil_of_left_ne_nil (List.ne_nil_of_length_pos d.length_digits_pos) _
  isDigit := by
    intro c hc
    rw [List.append_nil, List.mem_append] at hc
    rcases hc with hc | hc
    · exact isDigit_of_mem_digits hc
    · obtain ⟨-, rfl⟩ := List.mem_replicate.1 hc
      rfl
  expand_eq := by
    have hplaces : (-d.exponent).toNat = 0 := by omega
    rw [expand, hplaces, List.append_nil, Nat.ofDigitChars_append, ofDigitChars_digits,
      Nat.ofDigitChars_replicate_zero, Nat.mul_comm]
    rfl

/-- With fewer places than digits, the point divides the coefficient. -/
theorem spelledBy_split {d : Decimal} {places : Nat} (h : d.exponent < 0)
    (hplaces : (-d.exponent).toNat = places) (hinside : places < d.digits.length) :
    d.SpelledBy (d.digits.take (d.digits.length - places))
      (d.digits.drop (d.digits.length - places)) where
  whole_ne_nil := by
    rw [Ne, List.take_eq_nil_iff]
    rintro (hzero | hnil)
    · omega
    · rw [hnil] at hinside
      exact Nat.not_lt_zero _ hinside
  isDigit := by
    intro c hc
    rw [List.take_append_drop] at hc
    exact isDigit_of_mem_digits hc
  expand_eq := by
    have hcount : (d.digits.drop (d.digits.length - places)).length = places := by
      rw [List.length_drop]
      omega
    rw [expand_of_neg h, hplaces, List.take_append_drop, ofDigitChars_digits, hcount]

/-- With no fewer places than digits, a zero stands before the point, and as many behind it as
are missing. -/
theorem spelledBy_front {d : Decimal} {places : Nat} (h : d.exponent < 0)
    (hplaces : (-d.exponent).toNat = places) (hfront : d.digits.length ≤ places) :
    d.SpelledBy ['0'] (List.replicate (places - d.digits.length) '0' ++ d.digits) where
  whole_ne_nil := List.cons_ne_nil _ _
  isDigit := by
    intro c hc
    rw [List.mem_append, List.mem_append, List.mem_singleton] at hc
    rcases hc with rfl | hc | hc
    · rfl
    · obtain ⟨-, rfl⟩ := List.mem_replicate.1 hc
      rfl
    · exact isDigit_of_mem_digits hc
  expand_eq := by
    have hcount : (List.replicate (places - d.digits.length) '0' ++ d.digits).length = places := by
      rw [List.length_append, List.length_replicate]
      omega
    have hzero : Nat.ofDigitChars 10 ['0'] 0 = 0 := by decide
    rw [expand_of_neg h, hplaces, Nat.ofDigitChars_append, hzero, Nat.ofDigitChars_append,
      Nat.ofDigitChars_replicate_zero, Nat.mul_zero, ofDigitChars_digits, hcount]

/-- A decimal is written as digits that spell it, with a point among them if there are places.

**Proof sketch.** By the three forms of `positional`. -/
theorem exists_positional (d : Decimal) : ∃ whole fraction,
    d.positional = whole ++ pointed fraction ∧ d.SpelledBy whole fraction := by
  unfold positional
  rw [← digits]
  dsimp only
  split
  case isTrue hexponent => exact ⟨_, [], by simp [pointed], spelledBy_zeros hexponent⟩
  case isFalse hexponent =>
    have hneg : d.exponent < 0 := by omega
    split
    case isTrue hinside =>
      refine ⟨_, _, ?_, spelledBy_split hneg rfl hinside⟩
      rw [pointed, if_neg]
      rw [List.drop_eq_nil_iff]
      omega
    case isFalse hinside =>
      refine ⟨_, _, ?_, spelledBy_front hneg rfl (by omega)⟩
      rw [pointed, if_neg]
      · rfl
      · exact List.append_ne_nil_of_right_ne_nil _ (List.ne_nil_of_length_pos d.length_digits_pos)

end Decimal

/-! ## Reading the text back -/

namespace Numeral

/-- A minus sign in front of a text, if there is to be one. -/
def signed (negative : Bool) (text : List Char) : List Char :=
  if negative then '-' :: text else text

/-- A sign is read where one is written; digits are none. -/
theorem readSign_signed (negative : Bool) {text : List Char}
    (h : ∀ c ∈ text.head?, c.isDigit = true) :
    readSign (signed negative text) = (negative, text) := by
  cases negative with
  | true => rfl
  | false =>
    change readSign text = (false, text)
    unfold readSign
    split
    · exact absurd (h '-' rfl) (by decide)
    · exact absurd (h '+' rfl) (by decide)
    · rfl

/-- The text of a numeral consists of its digits, a sign and a point. -/
theorem mem_signed {negative : Bool} {whole fraction : List Char} {c : Char}
    (h : c ∈ signed negative (whole ++ Decimal.pointed fraction)) :
    c = '-' ∨ c = '.' ∨ c ∈ whole ++ fraction := by
  have hunsigned : c ∈ whole ++ Decimal.pointed fraction → c = '.' ∨ c ∈ whole ++ fraction := by
    unfold Decimal.pointed
    split <;> simp +contextual [or_left_comm]
  cases negative with
  | true =>
    rcases List.mem_cons.1 h with rfl | h
    · exact .inl rfl
    · exact .inr (hunsigned h)
  | false => exact .inr (hunsigned h)

/-- A run of digits ends before what does not start with a digit. -/
theorem run_append {run tail : List Char} (hrun : ∀ c ∈ run, c.isDigit = true)
    (htail : ∀ c ∈ tail.head?, c.isDigit = false) :
    (run ++ tail).takeWhile Char.isDigit = run ∧ (run ++ tail).dropWhile Char.isDigit = tail := by
  have hstop : tail.takeWhile Char.isDigit = [] ∧ tail.dropWhile Char.isDigit = tail := by
    cases tail with
    | nil => exact ⟨rfl, rfl⟩
    | cons c tail => simp [htail c rfl]
  rw [List.takeWhile_append_of_pos hrun, List.dropWhile_append_of_pos hrun, hstop.1, hstop.2,
    List.append_nil]
  exact ⟨rfl, rfl⟩

/-- A point and the digits behind it do not start with a digit, and neither do they with something
behind them that does not. -/
theorem isDigit_head?_pointed {fraction tail : List Char}
    (htail : ∀ c ∈ tail.head?, c.isDigit = false) :
    ∀ c ∈ (Decimal.pointed fraction ++ tail).head?, c.isDigit = false := by
  unfold Decimal.pointed
  split
  · exact htail
  · rintro c ⟨⟩
    rfl

/-- **Digits, a point, digits and an exponent are read as the numeral that they are.** -/
theorem read?_parts (negative : Bool) {whole fraction tail : List Char} {exponent : Int}
    (hne : whole ≠ []) (hdigit : ∀ c ∈ whole ++ fraction, c.isDigit = true)
    (htail : ∀ c ∈ tail.head?, c.isDigit = false ∧ c ≠ '.')
    (hexponent : readExponent? tail = some exponent) :
    read? (signed negative (whole ++ (Decimal.pointed fraction ++ tail))) =
      some ⟨negative, whole, fraction, exponent⟩ := by
  have hwhole : ∀ c ∈ whole, c.isDigit = true := fun c hc =>
    hdigit c (List.mem_append_left _ hc)
  have hfraction : ∀ c ∈ fraction, c.isDigit = true := fun c hc =>
    hdigit c (List.mem_append_right _ hc)
  have hstop : ∀ c ∈ tail.head?, c.isDigit = false := fun c hc => (htail c hc).1
  have hhead : ∀ c ∈ (whole ++ (Decimal.pointed fraction ++ tail)).head?, c.isDigit = true := by
    obtain ⟨first, rest, rfl⟩ := List.exists_cons_of_ne_nil hne
    rintro c ⟨⟩
    exact hwhole first List.mem_cons_self
  obtain ⟨htake, hdrop⟩ := run_append hwhole (isDigit_head?_pointed hstop)
  have hread : readFraction (Decimal.pointed fraction ++ tail) = (fraction, tail) := by
    unfold Decimal.pointed
    split
    case isTrue hnil =>
      rw [hnil, List.nil_append]
      unfold readFraction
      split
      · exact absurd rfl (htail '.' rfl).2
      · rfl
    case isFalse =>
      obtain ⟨htake', hdrop'⟩ := run_append hfraction hstop
      rw [List.cons_append]
      change ((fraction ++ tail).takeWhile Char.isDigit,
        (fraction ++ tail).dropWhile Char.isDigit) = _
      rw [htake', hdrop']
  unfold read?
  rw [readSign_signed negative hhead]
  dsimp only
  rw [htake, hdrop, hread]
  simp [hne, hexponent]

/-- Digits, a point and digits are read as the numeral that they are. -/
theorem read?_signed (negative : Bool) {whole fraction : List Char} (hne : whole ≠ [])
    (hdigit : ∀ c ∈ whole ++ fraction, c.isDigit = true) :
    read? (signed negative (whole ++ Decimal.pointed fraction)) =
      some ⟨negative, whole, fraction, 0⟩ := by
  have hread := @read?_parts negative whole fraction [] 0 hne hdigit (by simp) rfl
  rwa [List.append_nil] at hread

end Numeral

namespace Number

/-- A finite number is written as a sign, digits, a point and digits, which denote it. -/
theorem exists_chars {n : Number} (hn : n.isFinite = true) : ∃ negative whole fraction,
    n.chars = Numeral.signed negative (whole ++ Decimal.pointed fraction) ∧ whole ≠ [] ∧
      (∀ c ∈ whole ++ fraction, c.isDigit = true) ∧
      (⟨negative, whole, fraction, 0⟩ : Numeral).number = n := by
  cases n with
  | nan => exact absurd hn (by decide)
  | signed negative m =>
    have hm : m.isFinite = true := hn
    obtain ⟨whole, fraction, htext, hne, hdigit, hexpand⟩ := m.shortest.exists_positional
    have hshortest := Magnitude.nearest_shortest hm
    have hnear : m.shortest.expand.nearest = m := by
      rw [Decimal.nearest_expand (by rwa [hshortest]), hshortest]
    refine ⟨negative, whole, fraction, ?_, hne, hdigit, ?_⟩
    · rw [chars, if_pos hm, htext]
      rfl
    · rw [hexpand] at hnear
      simp only [Numeral.number, Numeral.decimal, Int.zero_sub]
      rw [hnear]

end Number

end Criteria

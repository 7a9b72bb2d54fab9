import Criteria.Proofs.Number.Scaling

/-!
# Significands

In a JSON text the digits of a numeral that do not fit into 64 bits are left off. What is read has
the same leading digits, so many that what is left off is far behind the digits of a magnitude.

## Main definitions

* `Criteria.Leads` — the leading digits of a number.
* `Criteria.Numeral.IsDigital` — a numeral whose digits are digits.

## Main results

* `Criteria.Numeral.significand_leads` — a significand has the leading digits of the coefficient.
* `Criteria.Numeral.within_significand` — a significand is worth its numeral, up to a small share.
* `Criteria.Numeral.significand_of_le` — a coefficient that fits is the significand.
-/

set_option autoImplicit false
set_option relaxedAutoImplicit false

namespace Criteria

/-! ## Leading digits -/

/-- A number starts with the digits of `front`, and `places` more follow. -/
structure Leads (front places full : Nat) : Prop where
  /-- It is no less than if zeros followed. -/
  lower : front * 10 ^ places ≤ full
  /-- It is less than if the leading digits were one more. -/
  upper : full < (front + 1) * 10 ^ places

namespace Leads

variable {front middle full places places' : Nat}

theorem refl (front : Nat) : Leads front 0 front := ⟨by simp, by simp⟩

/-- Leading digits of leading digits are leading digits. -/
theorem trans (h : Leads front places middle) (h' : Leads middle places' full) :
    Leads front (places + places') full where
  lower := by
    rw [Nat.pow_add, ← Nat.mul_assoc]
    exact (Nat.mul_le_mul_right _ h.lower).trans h'.lower
  upper := by
    rw [Nat.pow_add, ← Nat.mul_assoc]
    exact h'.upper.trans_le (Nat.mul_le_mul_right _ h.upper)

/-- Leading digits without more behind them are all digits. -/
theorem eq_of_zero (h : Leads front 0 full) : front = full := by
  have hlower := h.lower
  have hupper := h.upper
  omega

/-- What a number with given leading digits is worth with an exponent. -/
theorem zpow_bounds (h : Leads front places full) (exponent : Int) :
    (front : ℚ) * 10 ^ (exponent + places) ≤ full * 10 ^ exponent ∧
      (full : ℚ) * 10 ^ exponent < (front + 1) * 10 ^ (exponent + places) := by
  have hpow : (0 : ℚ) < 10 ^ exponent := zpow_pos (by norm_num) _
  have hlower : (front : ℚ) * 10 ^ places ≤ full := by exact_mod_cast h.lower
  have hupper : (full : ℚ) < (front + 1) * 10 ^ places := by exact_mod_cast h.upper
  rw [zpow_add₀ (by norm_num), zpow_natCast, mul_comm ((10 : ℚ) ^ exponent), ← mul_assoc,
    ← mul_assoc]
  exact ⟨mul_le_mul_of_nonneg_right hlower hpow.le, mul_lt_mul_of_pos_right hupper hpow⟩

end Leads

namespace Numeral

variable {digits : List Char} {significand : Nat}

/-- One more digit at the end. -/
theorem leads_extend {digit : Char} (hdigit : digit.isDigit = true) (significand : Nat) :
    Leads significand 1 (extend significand digit) := by
  have hle : digit.toNat - '0'.toNat ≤ 9 := by
    have hrange := (Char.isDigit_iff_toNat.mp hdigit).2
    have hnine : '9'.toNat = '0'.toNat + 9 := rfl
    omega
  constructor <;> unfold extend <;> omega

/-- Reading one digit more. -/
theorem ofDigitChars_cons_eq (significand : Nat) (digit : Char) (rest : List Char) :
    Nat.ofDigitChars 10 (digit :: rest) significand =
      Nat.ofDigitChars 10 rest (extend significand digit) := by
  rw [Nat.ofDigitChars_cons, extend, Nat.mul_comm]

/-- Digits behind others leave those in front. -/
theorem leads_ofDigitChars (hdigits : ∀ c ∈ digits, c.isDigit = true) (significand : Nat) :
    Leads significand digits.length (Nat.ofDigitChars 10 digits significand) := by
  induction digits generalizing significand with
  | nil => exact Leads.refl significand
  | cons digit rest ih =>
    obtain ⟨hdigit, hrest⟩ := List.forall_mem_cons.mp hdigits
    have hleads := (leads_extend hdigit significand).trans (ih hrest (extend significand digit))
    rw [ofDigitChars_cons_eq, List.length_cons, Nat.add_comm]
    exact hleads

/-- Digits that are left off are left off because one more does not fit. -/
def Full (significand dropped : Nat) : Prop := dropped = 0 ∨ maxSignificand < 10 * significand + 9

theorem full_of_extend {digit : Char} (hdigit : digit.isDigit = true)
    (h : maxSignificand < extend significand digit) (dropped : Nat) : Full significand dropped := by
  have hupper := (leads_extend hdigit significand).upper
  exact .inr (by omega)

/-- **The significand of whole digits has their leading digits.** -/
theorem wholePart_leads (hdigits : ∀ c ∈ digits, c.isDigit = true) (significand : Nat) :
    Leads (wholePart significand digits).1 (wholePart significand digits).2
        (Nat.ofDigitChars 10 digits significand) ∧
      Full (wholePart significand digits).1 (wholePart significand digits).2 := by
  induction digits generalizing significand with
  | nil => exact ⟨Leads.refl significand, .inl rfl⟩
  | cons digit rest ih =>
    obtain ⟨hdigit, hrest⟩ := List.forall_mem_cons.mp hdigits
    rw [wholePart]
    split
    · next hfull =>
      exact ⟨leads_ofDigitChars hdigits significand, full_of_extend hdigit hfull _⟩
    · rw [ofDigitChars_cons_eq]
      exact ih hrest (extend significand digit)

/-- **A significand continued by fraction digits has their leading digits,** behind its own. -/
theorem fractionPart_leads (hdigits : ∀ c ∈ digits, c.isDigit = true) (significand : Nat) :
    Leads significand (fractionPart significand digits).2 (fractionPart significand digits).1 ∧
      ∃ dropped, digits.length = (fractionPart significand digits).2 + dropped ∧
        Leads (fractionPart significand digits).1 dropped
          (Nat.ofDigitChars 10 digits significand) ∧
        Full (fractionPart significand digits).1 dropped := by
  induction digits generalizing significand with
  | nil => exact ⟨Leads.refl significand, 0, rfl, Leads.refl significand, .inl rfl⟩
  | cons digit rest ih =>
    obtain ⟨hdigit, hrest⟩ := List.forall_mem_cons.mp hdigits
    rw [fractionPart]
    split
    · next hfull =>
      refine ⟨Leads.refl significand, rest.length + 1, (Nat.zero_add _).symm, ?_, ?_⟩
      · exact leads_ofDigitChars hdigits significand
      · exact full_of_extend hdigit hfull _
    · obtain ⟨hleads, dropped, hlength, hmore, hfull⟩ := ih hrest (extend significand digit)
      have hfront := (leads_extend hdigit significand).trans hleads
      rw [Nat.add_comm] at hfront
      refine ⟨hfront, dropped, ?_, ?_, hfull⟩
      · rw [List.length_cons, hlength]
        dsimp only
        omega
      · rw [ofDigitChars_cons_eq]
        exact hmore

/-- A numeral whose digits are digits. -/
structure IsDigital (n : Numeral) : Prop where
  /-- Digits stand before the point. -/
  whole : ∀ c ∈ n.whole, c.isDigit = true
  /-- Digits stand behind the point. -/
  fraction : ∀ c ∈ n.fraction, c.isDigit = true

variable {n : Numeral}

/-- **The significand of a numeral and its coefficient have the same leading digits,** all of them
or those of a number that fills 64 bits, and the exponents make up for how many follow. -/
theorem significand_leads (hn : n.IsDigital) : ∃ front places places',
    Leads front places n.decimal.coefficient ∧ Leads front places' n.significand.1 ∧
      n.significand.2 + places' = n.decimal.exponent + places ∧
      (places = 0 ∧ places' = 0 ∨ maxSignificand < 10 * front + 9) := by
  obtain ⟨hwhole, hfull⟩ := wholePart_leads hn.whole 0
  obtain ⟨hfront, dropped, hlength, hfraction, hfull'⟩ :=
    fractionPart_leads hn.fraction (wholePart 0 n.whole).1
  have hdigits := leads_ofDigitChars hn.fraction (Nat.ofDigitChars 10 n.whole 0)
  have hcoefficient : n.decimal.coefficient =
      Nat.ofDigitChars 10 n.fraction (Nat.ofDigitChars 10 n.whole 0) :=
    Nat.ofDigitChars_append 0
  have hsignificand : n.significand =
      ((fractionPart (wholePart 0 n.whole).1 n.fraction).1,
        ((wholePart 0 n.whole).2 : Int) - (fractionPart (wholePart 0 n.whole).1 n.fraction).2 +
          n.exponent) := rfl
  have hexponent : n.decimal.exponent = n.exponent - n.fraction.length := rfl
  rw [hsignificand, hcoefficient, hexponent]
  rcases hfull with hzero | hfull
  · -- all whole digits fit, so what may be left off are fraction digits
    rw [hzero] at hwhole
    rw [← hwhole.eq_of_zero]
    refine ⟨_, dropped, 0, hfraction, Leads.refl _, ?_, ?_⟩
    · dsimp only
      omega
    · rcases hfull' with hnone | hfull'
      · exact .inl ⟨hnone, rfl⟩
      · exact .inr hfull'
  · refine ⟨_, _, _, hwhole.trans hdigits, hfront, ?_, .inr hfull⟩
    dsimp only
    push_cast
    omega

/-- **A significand is worth its numeral,** up to what is far behind the digits of a magnitude. -/
theorem within_significand (hn : n.IsDigital) :
    Within (1 / 2 ^ 60) (n.significand.1 * 10 ^ n.significand.2)
      (n.decimal.coefficient * 10 ^ n.decimal.exponent) := by
  obtain ⟨front, places, places', hcoefficient, hsignificand, hexponent, hfull⟩ :=
    significand_leads hn
  obtain ⟨hlow, hhigh⟩ := hcoefficient.zpow_bounds n.decimal.exponent
  obtain ⟨hlow', hhigh'⟩ := hsignificand.zpow_bounds n.significand.2
  rw [hexponent] at hlow' hhigh'
  rcases hfull with ⟨rfl, rfl⟩ | hfull
  · have hsame : n.significand.1 = n.decimal.coefficient :=
      hsignificand.eq_of_zero.symm.trans hcoefficient.eq_of_zero
    have hsame' : n.significand.2 = n.decimal.exponent := by simpa using hexponent
    rw [hsame, hsame']
    exact Within.refl (by norm_num) (mul_nonneg (Nat.cast_nonneg _) (zpow_nonneg (by norm_num) _))
  · have hlarge : (2 : ℚ) ^ 60 ≤ front := by
      have hnat : 2 ^ 60 ≤ front := by
        unfold maxSignificand at hfull
        omega
      exact_mod_cast hnat
    have hpow : (0 : ℚ) < 10 ^ (n.decimal.exponent + places) := zpow_pos (by norm_num) _
    have hbound := mul_le_mul_of_nonneg_right hlarge hpow.le
    rw [Within, abs_le]
    constructor <;> linarith

/-- What is read of whole digits fits. -/
theorem wholePart_le (digits : List Char) (h : significand ≤ maxSignificand) :
    (wholePart significand digits).1 ≤ maxSignificand := by
  induction digits generalizing significand with
  | nil => exact h
  | cons digit rest ih =>
    rw [wholePart]
    split
    · exact h
    · exact ih (by omega)

/-- What is read of fraction digits fits. -/
theorem fractionPart_le (digits : List Char) (h : significand ≤ maxSignificand) :
    (fractionPart significand digits).1 ≤ maxSignificand := by
  induction digits generalizing significand with
  | nil => exact h
  | cons digit rest ih =>
    rw [fractionPart]
    split
    · exact h
    · exact ih (by omega)

/-- A significand fits. -/
theorem significand_le (n : Numeral) : n.significand.1 ≤ maxSignificand :=
  fractionPart_le n.fraction (wholePart_le n.whole (Nat.zero_le _))

/-- Reading digits does not lose what has been read. -/
theorem le_ofDigitChars (digits : List Char) (start : Nat) :
    start ≤ Nat.ofDigitChars 10 digits start := by
  rw [Nat.ofDigitChars_eq_ofDigitChars_zero]
  exact (Nat.le_mul_of_pos_left start (Nat.pow_pos (by decide))).trans (Nat.le_add_right _ _)

/-- Whole digits that fit are all read. -/
theorem wholePart_of_le {start : Nat} (h : Nat.ofDigitChars 10 digits start ≤ maxSignificand) :
    wholePart start digits = (Nat.ofDigitChars 10 digits start, 0) := by
  induction digits generalizing start with
  | nil => rfl
  | cons digit rest ih =>
    rw [ofDigitChars_cons_eq] at h ⊢
    have hfits := (le_ofDigitChars rest (extend start digit)).trans h
    rw [wholePart, if_neg (by omega), ih h]

/-- Fraction digits that fit are all read. -/
theorem fractionPart_of_le {start : Nat} (h : Nat.ofDigitChars 10 digits start ≤ maxSignificand) :
    fractionPart start digits = (Nat.ofDigitChars 10 digits start, digits.length) := by
  induction digits generalizing start with
  | nil => rfl
  | cons digit rest ih =>
    rw [ofDigitChars_cons_eq] at h ⊢
    have hfits := (le_ofDigitChars rest (extend start digit)).trans h
    rw [fractionPart, if_neg (by omega), ih h, List.length_cons]

/-- **A coefficient that fits is the significand.** -/
theorem significand_of_le (h : n.decimal.coefficient ≤ maxSignificand) :
    n.significand = (n.decimal.coefficient, n.decimal.exponent) := by
  have hcoefficient : n.decimal.coefficient =
      Nat.ofDigitChars 10 n.fraction (Nat.ofDigitChars 10 n.whole 0) :=
    Nat.ofDigitChars_append 0
  rw [hcoefficient] at h ⊢
  have hwhole := wholePart_of_le ((le_ofDigitChars _ _).trans h)
  have hexponent : n.decimal.exponent = n.exponent - n.fraction.length := rfl
  rw [significand, hwhole]
  dsimp only
  rw [fractionPart_of_le h, hexponent]
  dsimp only
  congr 1
  push_cast
  omega

end Numeral

end Criteria

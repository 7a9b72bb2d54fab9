import Criteria.Proofs.Number.Near

/-!
# Two readings of a numeral

In the text of a rule a numeral is rounded once. In a JSON text the digits that fit into 64 bits are
rounded, the power of ten is rounded, and so is what comes of them. The two readings agree on
numerals with few digits and small exponents, and are a few places apart on others.

## Main definitions

* `Criteria.Numeral.recorded` — the magnitude that a numeral is read as in a JSON text.
* `Criteria.Numeral.Short` — numerals with few digits and small exponents.
* `Criteria.Numeral.worth` — what a numeral is worth.
* `Criteria.Numeral.finiteBound` — what is worth less is read as a finite number.

## Main results

* `Criteria.Numeral.approximate?_eq` — a numeral is read in a JSON text unless it comes to infinity.
* `Criteria.Numeral.recorded_near` — both readings of a numeral are near to each other.
* `Criteria.Numeral.recorded_of_short` — short numerals are read alike.
* `Criteria.Numeral.worth_lt_of_below` — a numeral that is read as something less is worth less.
* `Criteria.Numeral.isFinite_number_iff` — which numerals are read as finite numbers.
-/

set_option autoImplicit false
set_option relaxedAutoImplicit false

namespace Criteria

/-! ## Both readings -/

namespace Decimal

open Magnitude

variable {d d' : Decimal}

/-- A decimal that is worth no more is rounded to no later a place. -/
theorem rank_nearest_mono (h : d.units ≤ d'.units) : d.nearest.rank ≤ d'.nearest.rank := by
  rw [rank_nearest, rank_nearest]
  exact rounded_mono d.units_nonneg h

/-- Decimals with few digits and a small exponent are in range. -/
theorem isFinite_nearest (hcoefficient : d.coefficient ≤ Numeral.maxSignificand)
    (hexponent : d.exponent ≤ 22) : d.nearest.isFinite = true := by
  have hone := cast_unitsPerOne_pos
  have hten : (10 : ℚ) ^ d.exponent ≤ 10 ^ (22 : Int) :=
    zpow_le_zpow_right₀ (by norm_num) hexponent
  have hcast : (d.coefficient : ℚ) ≤ Numeral.maxSignificand := Nat.cast_le.mpr hcoefficient
  have hlast :
      (Numeral.maxSignificand * 10 ^ (22 : Int) * unitsPerOne : ℚ) ≤ gridUnits lastRank := by
    have hlarge : Numeral.maxSignificand * Nat.pow 10 22 ≤ Nat.pow 10 42 := by decide
    have hnat := mul_unitsPerOne_le_lastRank (hlarge.trans (pow_ten_mono (by decide)))
    have hcast := Nat.cast_le (α := ℚ).mpr hnat
    rwa [Nat.cast_mul, Nat.cast_mul, cast_pow_ten] at hcast
  have hworth : d.units ≤ gridUnits lastRank := by
    refine le_trans ?_ hlast
    rw [units]
    apply mul_le_mul_of_nonneg_right _ hone.le
    exact mul_le_mul hcast hten (zpow_nonneg (by norm_num) _) (Nat.cast_nonneg _)
  exact (isFinite_of_rank_eq (rank_nearest d) d.units_nonneg hworth).1

end Decimal

namespace Numeral

open Magnitude

variable {n m : Numeral}

/-- What a numeral in a JSON text is read as: infinity if it is refused. -/
def recorded (n : Numeral) : Magnitude :=
  ((ofNat n.significand.1).scale? n.significand.2).getD infinite

/-- **A numeral in a JSON text is read unless it comes to infinity.** -/
theorem approximate?_eq (n : Numeral) : n.approximate? =
    if n.recorded.isFinite = true then some (.signed n.negative n.recorded) else none := by
  have happroximate : n.approximate? =
      ((ofNat n.significand.1).scale? n.significand.2).map (.signed n.negative) := rfl
  rw [happroximate, recorded]
  cases hscale : (ofNat n.significand.1).scale? n.significand.2 with
  | none => rfl
  | some m =>
    have hfinite := isFinite_of_scale? n.significand_le hscale
    rw [Option.getD_some, if_pos hfinite]
    rfl

/-- **Both readings of a numeral are near to each other.** -/
theorem recorded_near (hn : n.IsDigital) : Near n.recorded n.decimal.nearest :=
  near_scale? n.significand_le
    (mul_nonneg (Nat.cast_nonneg _) (zpow_nonneg (by norm_num) _)) (within_significand hn)
    (Decimal.rank_nearest n.decimal)

/-- Numerals that are read exactly before they are rounded: zeros, whole numbers of 64 bits, and
numbers of 53 bits with an exponent up to 22. -/
def Short (n : Numeral) : Prop :=
  n.decimal.coefficient = 0 ∨
    n.decimal.exponent = 0 ∧ n.decimal.coefficient ≤ maxSignificand ∨
    n.decimal.coefficient ≤ 2 * binade ∧ n.decimal.exponent.natAbs ≤ 22

instance (n : Numeral) : Decidable n.Short := inferInstanceAs (Decidable (_ ∨ _))

/-- Numbers of 53 bits are not moved by rounding. -/
theorem worth_ofNat_of_le {c : Nat} (h : c ≤ 2 * binade) : (ofNat c).worth = c := by
  have hfits : c ≤ maxSignificand := h.trans (by decide)
  have hone : c * Nat.pow 2 0 = c := Nat.mul_one c
  have hrange := mul_unitsPerOne_le hfits
  rw [← hone] at hrange ⊢
  exact worth_ofNat_mul_pow h hrange

/-- What is read exactly and multiplied by a power of ten is rounded once. -/
theorem rank_mul_powerOfTen {c size : Nat} (hsize : size ≤ 22)
    (h : c ≤ 2 * binade ∨ size = 0) : ((ofNat c).mul (powerOfTen size)).rank =
      rounded (c * 10 ^ (size : Int) * unitsPerOne) := by
  rw [rank_mul, worth_powerOfTen_of_le hsize]
  rcases h with hsmall | rfl
  · rw [worth_ofNat_of_le hsmall]
  · rw [Nat.cast_zero, zpow_zero, mul_one, mul_one, worth_mul_unitsPerOne, rounded_units,
      rank_ofNat]

/-- What is read exactly and divided by a power of ten is rounded once. -/
theorem rank_div_powerOfTen_of_le {c size : Nat} (hsize : size ≤ 22) (h : c ≤ 2 * binade) :
    ((ofNat c).div (powerOfTen size)).rank =
      rounded (c * 10 ^ (-(size : Int)) * unitsPerOne) := by
  have hbound : size ≤ maxPowerOfTen := by
    unfold maxPowerOfTen
    omega
  rw [(rank_div_powerOfTen _ hbound).1, worth_powerOfTen_of_le hsize, units_div_eq,
    worth_ofNat_of_le h, zpow_neg]

/-- **What is read exactly is rounded once,** whichever way it is scaled. -/
theorem rank_scale?_of_le {c : Nat} {exponent : Int} (hpos : 0 < c) (hfits : c ≤ maxSignificand)
    (hexponent : exponent.natAbs ≤ 22) (h : c ≤ 2 * binade ∨ exponent = 0) :
    (((ofNat c).scale? exponent).getD infinite).rank =
      rounded (c * 10 ^ exponent * unitsPerOne) := by
  have hne := ofNat_ne_zero hpos hfits
  have hmax : exponent.natAbs ≤ maxPowerOfTen := hexponent.trans (by decide)
  rcases lt_or_ge exponent 0 with hneg | hnonneg
  · obtain ⟨size, rfl⟩ : ∃ size : Nat, exponent = -(size : Int) := ⟨exponent.natAbs, by omega⟩
    rw [scale?_neg hne (by omega), if_pos (by omega), Option.getD_some]
    exact rank_div_powerOfTen_of_le (by omega) (by omega)
  · obtain ⟨size, rfl⟩ := Int.eq_ofNat_of_zero_le hnonneg
    rw [scale?_natCast hne, if_neg (by omega), getD_infinite]
    exact rank_mul_powerOfTen (by omega) (by omega)

/-- The digits of short numerals fit into 64 bits, and their exponents are small unless they are
zeros. -/
theorem Short.bounds (h : n.Short) : n.decimal.coefficient ≤ maxSignificand ∧
    (0 < n.decimal.coefficient → n.decimal.exponent.natAbs ≤ 22 ∧
      (n.decimal.coefficient ≤ 2 * binade ∨ n.decimal.exponent = 0)) := by
  rcases h with hzero | ⟨hexponent, hfits⟩ | ⟨hsmall, hexponent⟩
  · exact ⟨by omega, fun hpos => absurd hzero hpos.ne'⟩
  · exact ⟨hfits, fun _ => ⟨by omega, .inr hexponent⟩⟩
  · exact ⟨hsmall.trans (by decide), fun _ => ⟨hexponent, .inl hsmall⟩⟩

/-- **Short numerals are read alike,** and as something finite. -/
theorem recorded_of_short (h : n.Short) :
    n.recorded = n.decimal.nearest ∧ n.recorded.isFinite = true := by
  obtain ⟨hfits, hbounds⟩ := h.bounds
  rw [recorded, significand_of_le hfits]
  dsimp only
  rcases Nat.eq_zero_or_pos n.decimal.coefficient with hzero | hpos
  · have hnearest : n.decimal.nearest = zero := by
      rw [Decimal.nearest, if_pos hzero]
    rw [hzero, hnearest, scale?, if_pos ofNat_zero]
    exact ⟨rfl, rfl⟩
  · obtain ⟨hexponent, hsmall⟩ := hbounds hpos
    have hfinite : n.decimal.nearest.isFinite = true :=
      Decimal.isFinite_nearest hfits (by omega)
    have hrank := rank_scale?_of_le hpos hfits hexponent hsmall
    have hsame : ((ofNat n.decimal.coefficient).scale? n.decimal.exponent).getD infinite =
        n.decimal.nearest := by
      apply ext_rank
      rw [hrank, Decimal.rank_nearest, Decimal.units]
    exact ⟨hsame, hsame ▸ hfinite⟩

/-! ## Comparing what is read -/

/-- What a numeral is worth. -/
def worth (n : Numeral) : ℚ :=
  (if n.negative then -1 else 1) * (n.decimal.coefficient * 10 ^ n.decimal.exponent)

/-- The worth of a numeral in units is that of its decimal, with a sign. -/
theorem worth_mul_unitsPerOne (n : Numeral) : n.worth * unitsPerOne =
    if n.negative then -n.decimal.units else n.decimal.units := by
  unfold worth Decimal.units
  split <;> ring

/-- A decimal that is worth nothing is rounded to nothing. -/
theorem rank_nearest_of_nonpos {d : Decimal} (h : d.units ≤ 0) : d.nearest.rank = 0 := by
  rw [Decimal.rank_nearest, rounded_of_lt_half (by linarith)]

/-- **A numeral that is read as something less is worth less.**

**Proof sketch.** Rounding does not change the order of worths. With equal signs it is that of the
magnitudes or its reverse; with different signs both would be worth nothing. -/
theorem worth_lt_of_below (h : n.number.below m.number = true) : n.worth < m.worth := by
  have hone := cast_unitsPerOne_pos
  have hn := n.worth_mul_unitsPerOne
  have hm := m.worth_mul_unitsPerOne
  have hnonneg := n.decimal.units_nonneg
  have hnonneg' := m.decimal.units_nonneg
  have hposition : ∀ n : Numeral, n.number.position? =
      some (if n.negative then -(n.decimal.nearest.rank : Int) else n.decimal.nearest.rank) := by
    intro n
    unfold number
    cases n.negative <;> rfl
  unfold Number.below at h
  rw [hposition, hposition] at h
  have hlt := of_decide_eq_true h
  by_contra hnot
  have hle := mul_le_mul_of_nonneg_right (not_lt.mp hnot) hone.le
  rw [hn, hm] at hle
  cases hsign : n.negative <;> cases hsign' : m.negative <;>
    simp only [hsign, hsign', if_true, if_false, Bool.false_eq_true] at hle hlt
  · have hrank := Decimal.rank_nearest_mono hle
    omega
  · omega
  · have hzero := rank_nearest_of_nonpos (show n.decimal.units ≤ 0 by linarith)
    have hzero' := rank_nearest_of_nonpos (show m.decimal.units ≤ 0 by linarith)
    omega
  · have hrank := Decimal.rank_nearest_mono (neg_le_neg_iff.mp hle)
    omega

/-! ## The range of finite numbers -/

/-- What is worth as much or more is rounded to infinity: half a step more than the largest finite
magnitude. -/
def finiteBound : ℚ := 2 ^ 1024 - 2 ^ 970

/-- The bound lies halfway between the last two places. -/
theorem gridUnits_lastRank_add : (gridUnits lastRank + gridUnits (lastRank + 1) : ℚ) =
    2 * (finiteBound * unitsPerOne) := by
  have hnat : gridUnits lastRank + gridUnits (lastRank + 1) + 2 * (2 ^ 970 * unitsPerOne) =
      2 * (2 ^ 1024 * unitsPerOne) := by
    decide +kernel
  have hcast := congrArg (Nat.cast : Nat → ℚ) hnat
  simp only [Nat.cast_add, Nat.cast_mul, Nat.cast_pow, Nat.cast_ofNat] at hcast
  rw [finiteBound, sub_mul, mul_sub, ← hcast, add_sub_cancel_right]

/-- **A numeral is read as a finite number if it is worth less than the bound.** -/
theorem isFinite_number_iff (n : Numeral) : n.number.isFinite = true ↔ |n.worth| < finiteBound := by
  have hone := cast_unitsPerOne_pos
  have hunits : |n.worth| * unitsPerOne = n.decimal.units := by
    rw [← abs_of_pos hone, ← abs_mul, worth_mul_unitsPerOne]
    split
    · rw [abs_neg, abs_of_nonneg n.decimal.units_nonneg]
    · exact abs_of_nonneg n.decimal.units_nonneg
  have hlast : lastRank + 1 = topRank := by decide
  have hodd : lastRank % 2 = 1 := by decide
  have hrank : n.number.isFinite = true ↔ place n.decimal.units ≤ lastRank := by
    rw [number, Number.isFinite, isFinite, Decimal.rank_nearest, rounded, decide_eq_true_iff]
    omega
  rw [hrank, place_le_iff_of_odd hodd n.decimal.units_nonneg, gridUnits_lastRank_add, ← hunits,
    mul_lt_mul_iff_right₀ (by norm_num), mul_lt_mul_iff_left₀ hone]

end Numeral

end Criteria

import Criteria.Proofs.Number.Significand

/-!
# Scaling is near to rounding once

A significand that is scaled by a power of ten is rounded up to five times. What comes of it is at
most six places away from what it would be rounded to once.

## Main definitions

* `Criteria.Magnitude.Near` — at most six places lie between two magnitudes.

## Main results

* `Criteria.Magnitude.isFinite_of_scale?` — what is scaled to infinity has no result.
* `Criteria.Magnitude.near_scale?` — scaling is near to rounding once, infinity included.
-/

set_option autoImplicit false
set_option relaxedAutoImplicit false

namespace Criteria

/-! ## Scaling a significand -/

namespace Magnitude

open Numeral

variable {m : Magnitude} {significand size : Nat} {exponent : Int}

/-- Significands are finite. -/
theorem mul_unitsPerOne_le (h : significand ≤ maxSignificand) :
    significand * unitsPerOne ≤ gridUnits lastRank := by
  have hlarge : maxSignificand ≤ Nat.pow 10 20 := by decide
  exact mul_unitsPerOne_le_lastRank ((h.trans hlarge).trans (pow_ten_mono (by decide)))

/-- A power of ten is rounded to at least half of it. -/
theorem pow_ten_le_two_mul (h : size ≤ maxPowerOfTen) :
    (10 : ℚ) ^ (size : Int) ≤ 2 * (powerOfTen size).worth :=
  (within_worth_powerOfTen h).le_two_mul' (by norm_num) (zpow_nonneg (by norm_num) _)

/-- A power of ten is worth something. -/
theorem units_powerOfTen_pos (h : size ≤ maxPowerOfTen) : 0 < (powerOfTen size).units := by
  have hpow : (0 : ℚ) < 10 ^ (size : Int) := zpow_pos (by norm_num) _
  have hhalf := pow_ten_le_two_mul h
  exact units_pos_of_worth_pos (by linarith)

/-- What units come to that are divided. -/
theorem units_div_eq (m : Magnitude) (divisor : ℚ) :
    m.units / divisor = m.worth * divisor⁻¹ * unitsPerOne := by
  rw [← m.worth_mul_unitsPerOne, div_eq_mul_inv, mul_right_comm]

/-- Dividing by a power of ten is rounded like its worth, which is not much more than what is
divided. -/
theorem rank_div_powerOfTen (m : Magnitude) (h : size ≤ maxPowerOfTen) :
    (m.div (powerOfTen size)).rank = rounded (m.units / (powerOfTen size).worth) ∧
      m.units / (powerOfTen size).worth ≤ 2 * m.units := by
  have hhalf := pow_ten_le_two_mul h
  have hpow : (1 : ℚ) ≤ 10 ^ (size : Int) := by
    rw [zpow_natCast]
    exact one_le_pow₀ (by norm_num)
  constructor
  · rw [rank_div m (units_powerOfTen_pos h), units_div_eq, div_eq_mul_inv]
  · rw [div_le_iff₀ (by linarith)]
    have hunits : (0 : ℚ) ≤ m.units := Nat.cast_nonneg _
    have hscaled := mul_le_mul_of_nonneg_left (hpow.trans hhalf) hunits
    linarith

theorem div_worth_nonneg (m m' : Magnitude) : 0 ≤ m.units / m'.worth :=
  div_nonneg (Nat.cast_nonneg _) m'.worth_nonneg

/-- What a quotient by a power of ten is worth, if it is in range. -/
theorem units_div_powerOfTen (h : size ≤ maxPowerOfTen)
    (hle : (2 * m.units : ℚ) ≤ gridUnits lastRank) :
    (m.div (powerOfTen size)).isFinite = true ∧
      (m.div (powerOfTen size)).units = gridUnits (place (m.units / (powerOfTen size).worth)) := by
  obtain ⟨hrank, hworth⟩ := rank_div_powerOfTen m h
  exact isFinite_of_rank_eq hrank (div_worth_nonneg m _) (hworth.trans hle)

/-- Zero is not moved. -/
theorem ofNat_zero : ofNat 0 = zero := by
  apply ext_rank
  have hworth : ((0 : Nat) * unitsPerOne : ℚ) = 0 := by
    rw [Nat.cast_zero, zero_mul]
  rw [rank_ofNat, hworth, rounded_of_lt_half (by norm_num)]
  rfl

/-- A significand is not moved far. -/
theorem units_ofNat_bounds (hpos : 0 < significand) (h : significand ≤ maxSignificand) :
    0 < (ofNat significand).units ∧
      (2 * (ofNat significand).units : ℚ) ≤ 4 * (maxSignificand * unitsPerOne) := by
  have hone := cast_unitsPerOne_pos
  have hwithin := within_worth_ofNat hpos (mul_unitsPerOne_le h)
  have hcast : (0 : ℚ) < significand := Nat.cast_pos.mpr hpos
  have hle : (significand : ℚ) ≤ maxSignificand := Nat.cast_le.mpr h
  have hlow := hwithin.le_two_mul' (by norm_num) hcast.le
  have hhigh := hwithin.le_two_mul (by norm_num) hcast.le
  rw [worth, div_le_iff₀ hone] at hhigh
  constructor
  · exact units_pos_of_worth_pos (by linarith)
  · have hscaled := mul_le_mul_of_nonneg_right hle hone.le
    linarith

/-- Much more than a significand is still in range. -/
theorem twenty_mul_le : (20 * (maxSignificand * unitsPerOne) : ℚ) ≤ gridUnits lastRank := by
  have hlarge : 20 * maxSignificand ≤ Nat.pow 10 21 := by decide
  have hnat := mul_unitsPerOne_le_lastRank (hlarge.trans (pow_ten_mono (by decide)))
  rw [Nat.mul_assoc] at hnat
  have hcast := Nat.cast_le (α := ℚ).mpr hnat
  rwa [Nat.cast_mul, Nat.cast_mul, Nat.cast_ofNat] at hcast

/-- A quotient by the largest power of ten is not much more than what is divided. -/
theorem units_div_le (h : size ≤ maxPowerOfTen) (hle : (2 * m.units : ℚ) ≤ gridUnits lastRank) :
    ((m.div (powerOfTen size)).units : ℚ) ≤ 4 * m.units + 1 := by
  have hworth := (rank_div_powerOfTen m h).2
  have hnonneg := div_worth_nonneg m (powerOfTen size)
  have herror := (abs_le.mp (abs_gridUnits_place_sub_le hnonneg)).2
  have hblur : blur (m.units / (powerOfTen size).worth) ≤
      m.units / (powerOfTen size).worth + 1 / 2 :=
    max_le (by linarith [div_le_self hnonneg (by norm_num : (1 : ℚ) ≤ 2 ^ 53)]) (by linarith)
  rw [(units_div_powerOfTen h hle).2]
  linarith

/-- **Scaling does not come to infinity:** where it would, there is no result. -/
theorem isFinite_of_scale? (h : significand ≤ maxSignificand)
    (hscale : (ofNat significand).scale? exponent = some m) : m.isFinite = true := by
  have hlast := twenty_mul_le
  have hone : (1 : ℚ) ≤ maxSignificand * unitsPerOne := by
    have hnat : 1 ≤ maxSignificand * unitsPerOne :=
      Nat.mul_pos (by decide) (Nat.cast_pos.mp cast_unitsPerOne_pos)
    have hcast := Nat.cast_le (α := ℚ).mpr hnat
    rwa [Nat.cast_mul, Nat.cast_one] at hcast
  unfold scale? at hscale
  dsimp only at hscale
  split_ifs at hscale with hzero hsign hlarge hfinite hsmall hdouble
  · obtain rfl := Option.some.inj hscale
    rfl
  · obtain rfl := Option.some.inj hscale
    exact hfinite
  all_goals
    have hpos : 0 < significand := by
      rcases Nat.eq_zero_or_pos significand with rfl | hpos
      · exact absurd ofNat_zero hzero
      · exact hpos
    have hbound := (units_ofNat_bounds hpos h).2
    obtain rfl := Option.some.inj hscale
  · exact (units_div_powerOfTen hsmall (by linarith)).1
  · have hquotient := units_div_le (m := ofNat significand) le_rfl (by linarith)
    exact (units_div_powerOfTen (by omega) (by linarith)).1
  · rfl

/-! ## Scaling is near to rounding once -/

/-- At most six places lie between two magnitudes. -/
def Near (m m' : Magnitude) : Prop := m.rank ≤ m'.rank + 6 ∧ m'.rank ≤ m.rank + 6

variable {worth worth' : ℚ}

/-- Worths that are near to each other are rounded to magnitudes that are. -/
theorem near_of_abs_sub_le {m' : Magnitude} (blurs : Nat) (hblurs : blurs ≤ 4) (h : 0 ≤ worth)
    (h' : 0 ≤ worth') (hnear : |worth' - worth| ≤ (blurs + 1 / 4) * blur worth)
    (hm : m.rank = rounded worth') (hm' : m'.rank = rounded worth) : Near m m' := by
  have hplaces := place_near (by omega) h h' hnear
  unfold Near
  unfold rounded at hm hm'
  omega

/-- Numbers that are off by a small share are rounded to magnitudes that are near to each other. -/
theorem near_of_within {m' : Magnitude} {number other : ℚ} (blurs : Nat) (hblurs : blurs ≤ 4)
    (h : 0 ≤ other) (h' : 0 ≤ number) (hwithin : Within ((blurs + 1 / 4) / 2 ^ 53) number other)
    (hm : m.rank = rounded (number * unitsPerOne))
    (hm' : m'.rank = rounded (other * unitsPerOne)) : Near m m' := by
  have hone := cast_unitsPerOne_pos
  refine near_of_abs_sub_le blurs hblurs (mul_nonneg h hone.le) (mul_nonneg h' hone.le) ?_ hm hm'
  have hshare : other * unitsPerOne / 2 ^ 53 ≤ blur (other * unitsPerOne) := le_max_left _ _
  have hquarter : (0 : ℚ) ≤ 1 / 4 := by norm_num
  have hscaled := mul_le_mul_of_nonneg_left hshare (add_nonneg (Nat.cast_nonneg blurs) hquarter)
  have herror := hwithin.mul_right hone.le
  rw [Within] at herror
  refine herror.trans (le_trans (le_of_eq ?_) hscaled)
  ring

/-- The blur of a quotient is no less than the quotient of the blur. -/
theorem blur_div_le {divisor : ℚ} (hdivisor : 1 ≤ divisor) : blur worth / divisor ≤
    blur (worth / divisor) := by
  rw [div_le_iff₀ (by linarith)]
  have hpos := blur_pos (worth / divisor)
  apply max_le
  · have hshare : worth / divisor / 2 ^ 53 ≤ blur (worth / divisor) := le_max_left _ _
    have hscaled := mul_le_mul_of_nonneg_right hshare (show (0 : ℚ) ≤ divisor by linarith)
    refine le_trans (le_of_eq ?_) hscaled
    field_simp
  · have hhalf : 1 / 2 ≤ blur (worth / divisor) := le_max_right _ _
    have hscaled := mul_le_mul_of_nonneg_left hdivisor hpos.le
    linarith

/-- A quotient of what has been rounded is worth what it would be without rounding, up to a blur:
the blur is divided with it. -/
theorem abs_div_sub_le {divisor : ℚ} (hdivisor : 1 ≤ divisor) (h : 0 ≤ worth)
    (hshare : |worth / divisor - worth'| ≤ 25 / 8 / 2 ^ 53 * worth') :
    |gridUnits (place worth) / divisor - worth'| ≤ (4 + 1 / 4) * blur worth' := by
  have hpos : 0 < divisor := by linarith
  have hblur : worth' / 2 ^ 53 ≤ blur worth' := le_max_left _ _
  have hfirst : |worth / divisor - worth'| ≤ 25 / 8 * blur worth' :=
    hshare.trans (by linarith)
  have hmoved : |gridUnits (place worth) / divisor - worth / divisor| ≤ blur (worth / divisor) := by
    rw [← sub_div, abs_div, abs_of_pos hpos]
    exact (div_le_div_of_nonneg_right (abs_gridUnits_place_sub_le h) hpos.le).trans
      (blur_div_le hdivisor)
  have hnear : blur (worth / divisor) ≤ 33 / 32 * blur worth' := by
    apply blur_le_blur
    have hhigh := (abs_le.mp hfirst).2
    have hblurPos := blur_pos worth'
    linarith
  have hpositive := blur_pos worth'
  have htriangle := abs_sub_le (gridUnits (place worth) / divisor) (worth / divisor) worth'
  linarith

section scaling

variable {m' : Magnitude} {number : ℚ}

/-- A significand times a power of ten. -/
theorem near_mul (hpos : 0 < significand) (hfits : significand ≤ maxSignificand)
    (hsize : size ≤ maxPowerOfTen) (hnumber : 0 ≤ number)
    (h : Within (1 / 2 ^ 60) (significand * 10 ^ (size : Int)) number)
    (hm' : m'.rank = rounded (number * unitsPerOne)) :
    Near ((ofNat significand).mul (powerOfTen size)) m' := by
  have hdigits := within_worth_ofNat hpos (mul_unitsPerOne_le hfits)
  have hpower := within_worth_powerOfTen hsize
  have hproduct := (hdigits.mul hpower (by norm_num) (Nat.cast_nonneg _) (worth_nonneg _)).trans h
    (by norm_num)
  exact near_of_within 2 (by decide) hnumber (mul_nonneg (worth_nonneg _) (worth_nonneg _))
    (hproduct.mono (by norm_num) hnumber) (rank_mul _ _) hm'

/-- A significand divided by a power of ten. -/
theorem near_div (hpos : 0 < significand) (hfits : significand ≤ maxSignificand)
    (hsize : size ≤ maxPowerOfTen) (hnumber : 0 ≤ number)
    (h : Within (1 / 2 ^ 60) (significand * (10 ^ (size : Int))⁻¹) number)
    (hm' : m'.rank = rounded (number * unitsPerOne)) :
    Near ((ofNat significand).div (powerOfTen size)) m' := by
  have hten : (0 : ℚ) < 10 ^ (size : Int) := zpow_pos (by norm_num) _
  have hdigits := within_worth_ofNat hpos (mul_unitsPerOne_le hfits)
  have hpower := (within_worth_powerOfTen hsize).inv (by norm_num) (by norm_num) hten
  have hinv := inv_nonneg.mpr (powerOfTen size).worth_nonneg
  have hquotient := (hdigits.mul hpower (by norm_num) (Nat.cast_nonneg _) hinv).trans h
    (by norm_num)
  refine near_of_within 2 (by decide) hnumber (mul_nonneg (worth_nonneg _) hinv)
    (hquotient.mono (by norm_num) hnumber) ?_ hm'
  rw [(rank_div_powerOfTen _ hsize).1, units_div_eq]

/-- A significand divided by the largest power of ten and by another one.

**Proof sketch.** The second quotient is worth what it would be without the rounding of the first,
up to a blur: the blur of the first quotient is divided with it. -/
theorem near_div_div (hpos : 0 < significand) (hfits : significand ≤ maxSignificand)
    (hzero : 0 < size) (hsize : size ≤ maxPowerOfTen) (hnumber : 0 ≤ number)
    (h : Within (1 / 2 ^ 60)
      (significand * (10 ^ (maxPowerOfTen : Int))⁻¹ * (10 ^ (size : Int))⁻¹) number)
    (hm' : m'.rank = rounded (number * unitsPerOne)) :
    Near (((ofNat significand).div (powerOfTen maxPowerOfTen)).div (powerOfTen size)) m' := by
  have hone := cast_unitsPerOne_pos
  have hten : ∀ k : Nat, (0 : ℚ) < 10 ^ (k : Int) := fun k => zpow_pos (by norm_num) _
  have hdigits := within_worth_ofNat hpos (mul_unitsPerOne_le hfits)
  have hfirst := (within_worth_powerOfTen (le_refl maxPowerOfTen)).inv (by norm_num) (by norm_num)
    (hten _)
  have hsecond := (within_worth_powerOfTen hsize).inv (by norm_num) (by norm_num) (hten _)
  have hinv := inv_nonneg.mpr (powerOfTen maxPowerOfTen).worth_nonneg
  have hinv' := inv_nonneg.mpr (powerOfTen size).worth_nonneg
  have hquotient := hdigits.mul hfirst (by norm_num) (Nat.cast_nonneg _) hinv
  have hboth := (hquotient.mul hsecond (by norm_num)
    (mul_nonneg (Nat.cast_nonneg _) (inv_nonneg.mpr (hten _).le)) hinv').trans h (by norm_num)
  have hshare := (hboth.mono (show _ ≤ 25 / 8 / 2 ^ 53 by norm_num) hnumber).mul_right hone.le
  have hdivisor : 1 ≤ (powerOfTen size).worth := by
    have hhalf := pow_ten_le_two_mul hsize
    have hlarge : (10 : ℚ) ≤ 10 ^ (size : Int) := by
      rw [zpow_natCast]
      exact le_self_pow₀ (by norm_num) hzero.ne'
    linarith
  have hrange : (2 * (ofNat significand).units : ℚ) ≤ gridUnits lastRank := by
    have hbound := (units_ofNat_bounds hpos hfits).2
    have hlast := twenty_mul_le
    have hnat : (0 : ℚ) ≤ maxSignificand * unitsPerOne :=
      mul_nonneg (Nat.cast_nonneg _) (Nat.cast_nonneg _)
    linarith
  have hunits := (units_div_powerOfTen (m := ofNat significand) le_rfl hrange).2
  have hworth := div_worth_nonneg (ofNat significand) (powerOfTen maxPowerOfTen)
  have hrank := (rank_div_powerOfTen ((ofNat significand).div (powerOfTen maxPowerOfTen)) hsize).1
  rw [hunits] at hrank
  refine near_of_abs_sub_le 4 le_rfl (mul_nonneg hnumber hone.le)
    (div_nonneg (Nat.cast_nonneg _) (by linarith)) ?_ hrank hm'
  refine abs_div_sub_le hdivisor hworth ?_
  rw [Within, mul_right_comm, ← units_div_eq] at hshare
  exact hshare

/-- A significand times a power of ten that is too large. -/
theorem near_infinite (hpos : 0 < significand) (hexponent : 309 ≤ exponent) (hnumber : 0 ≤ number)
    (h : Within (1 / 2 ^ 60) (significand * 10 ^ exponent) number)
    (hm' : m'.rank = rounded (number * unitsPerOne)) : Near infinite m' := by
  have hone := cast_unitsPerOne_pos
  have hten : (0 : ℚ) < 10 ^ exponent := zpow_pos (by norm_num) _
  have hcast : (1 : ℚ) ≤ significand := by exact_mod_cast hpos
  have hlarge := two_mul_topRank_le_zpow hexponent
  have hscaled : (10 : ℚ) ^ exponent * unitsPerOne ≤ significand * 10 ^ exponent * unitsPerOne :=
    mul_le_mul_of_nonneg_right (le_mul_of_one_le_left hten.le hcast) hone.le
  have hhalf := mul_le_mul_of_nonneg_right (h.le_two_mul (by norm_num) hnumber) hone.le
  have htop : (gridUnits topRank : ℚ) ≤ number * unitsPerOne := by linarith
  rw [Near, rank_infinite, hm', rounded_of_topRank_le htop]
  omega

/-- A significand times a power of ten that is too small. -/
theorem near_zero (hfits : significand ≤ maxSignificand) (hexponent : exponent ≤ -345)
    (hnumber : 0 ≤ number) (h : Within (1 / 2 ^ 60) (significand * 10 ^ exponent) number)
    (hm' : m'.rank = rounded (number * unitsPerOne)) : Near zero m' := by
  have hone := cast_unitsPerOne_pos
  have hten : (0 : ℚ) < 10 ^ exponent := zpow_pos (by norm_num) _
  have hcast : (significand : ℚ) ≤ 10 ^ 20 := by
    have hnat : significand ≤ 10 ^ 20 := hfits.trans (by decide)
    exact_mod_cast hnat
  have hsmall := two_mul_zpow_le (show exponent + 21 ≤ -324 by omega)
  rw [zpow_add₀ (by norm_num)] at hsmall
  have hscaled : (significand : ℚ) * 10 ^ exponent * unitsPerOne ≤
      10 ^ 20 * 10 ^ exponent * unitsPerOne :=
    mul_le_mul_of_nonneg_right (mul_le_mul_of_nonneg_right hcast hten.le) hone.le
  have hhalf := mul_le_mul_of_nonneg_right (h.le_two_mul' (by norm_num) hnumber) hone.le
  have hnone : number * unitsPerOne < 1 / 2 := by linarith
  have hrank : zero.rank = 0 := rfl
  rw [Near, hrank, hm', rounded_of_lt_half hnone]
  omega

end scaling

/-- Scaling by a power of ten. -/
theorem scale?_natCast (hm : m ≠ zero) (size : Nat) : m.scale? size =
    if maxPowerOfTen < size then none
    else if (m.mul (powerOfTen size)).isFinite = true then some (m.mul (powerOfTen size))
    else none := by
  rw [scale?, if_neg hm, if_pos (Int.natCast_nonneg size), Int.natAbs_natCast]

/-- Scaling down by a power of ten. -/
theorem scale?_neg (hm : m ≠ zero) (hsize : 0 < size) : m.scale? (-(size : Int)) =
    if size ≤ maxPowerOfTen then some (m.div (powerOfTen size))
    else if size ≤ 2 * maxPowerOfTen then
      some ((m.div (powerOfTen maxPowerOfTen)).div (powerOfTen (size - maxPowerOfTen)))
    else some zero := by
  have hnot : ¬ (0 : Int) ≤ -(size : Int) := by omega
  rw [scale?, if_neg hm, if_neg hnot, Int.natAbs_neg, Int.natAbs_natCast]

/-- What is not finite is infinity. -/
theorem getD_infinite (m : Magnitude) :
    (if m.isFinite = true then some m else none).getD infinite = m := by
  split
  · rfl
  · next hfinite =>
    apply ext_rank
    have hrank : ¬ m.rank < topRank := fun h => hfinite (decide_eq_true h)
    have hle := m.rank_le
    rw [Option.getD_none, rank_infinite]
    omega

/-- Significands that are not zero are not rounded to zero. -/
theorem ofNat_ne_zero (hpos : 0 < significand) (hfits : significand ≤ maxSignificand) :
    ofNat significand ≠ zero := by
  intro hzero
  have hunits := (units_ofNat_bounds hpos hfits).1
  rw [hzero] at hunits
  exact absurd hunits (lt_irrefl _)

/-- Powers of ten are divided by one after the other. -/
theorem inv_zpow_add (a b : Nat) :
    ((10 : ℚ) ^ ((a + b + 1 : Nat) : Int))⁻¹ =
      (10 ^ (a : Int))⁻¹ * (10 ^ ((b + 1 : Nat) : Int))⁻¹ := by
  rw [← mul_inv, ← zpow_add₀ (by norm_num), Nat.add_assoc, Nat.cast_add]

/-- Scaling up is near to rounding once. -/
theorem near_scale?_natCast {m' : Magnitude} {number : ℚ} (hpos : 0 < significand)
    (hfits : significand ≤ maxSignificand) (hnumber : 0 ≤ number)
    (h : Within (1 / 2 ^ 60) (significand * 10 ^ (size : Int)) number)
    (hm' : m'.rank = rounded (number * unitsPerOne)) :
    Near (((ofNat significand).scale? size).getD infinite) m' := by
  rw [scale?_natCast (ofNat_ne_zero hpos hfits)]
  by_cases hlarge : maxPowerOfTen < size
  · rw [if_pos hlarge, Option.getD_none]
    exact near_infinite hpos (by unfold maxPowerOfTen at hlarge; omega) hnumber h hm'
  · rw [if_neg hlarge, getD_infinite]
    exact near_mul hpos hfits (by omega) hnumber h hm'

/-- Scaling down is near to rounding once. -/
theorem near_scale?_neg {m' : Magnitude} {number : ℚ} (hpos : 0 < significand)
    (hfits : significand ≤ maxSignificand) (hsize : 0 < size) (hnumber : 0 ≤ number)
    (h : Within (1 / 2 ^ 60) (significand * 10 ^ (-(size : Int))) number)
    (hm' : m'.rank = rounded (number * unitsPerOne)) :
    Near (((ofNat significand).scale? (-(size : Int))).getD infinite) m' := by
  rw [scale?_neg (ofNat_ne_zero hpos hfits) hsize]
  by_cases hsmall : size ≤ maxPowerOfTen
  · rw [zpow_neg] at h
    rw [if_pos hsmall, Option.getD_some]
    exact near_div hpos hfits hsmall hnumber h hm'
  · rw [if_neg hsmall]
    by_cases hdouble : size ≤ 2 * maxPowerOfTen
    · obtain ⟨rest, rfl⟩ := Nat.exists_eq_add_of_lt (Nat.lt_of_not_le hsmall)
      rw [zpow_neg, inv_zpow_add, ← mul_assoc] at h
      rw [if_pos hdouble, Nat.add_assoc, Nat.add_sub_cancel_left, Option.getD_some]
      exact near_div_div hpos hfits (by omega) (by omega) hnumber h hm'
    · rw [if_neg hdouble, Option.getD_some]
      exact near_zero hfits (by unfold maxPowerOfTen at hdouble; omega) hnumber h hm'

/-- **Scaling a significand is near to rounding once.** -/
theorem near_scale? {m' : Magnitude} {number : ℚ} (hfits : significand ≤ maxSignificand)
    (hnumber : 0 ≤ number) (h : Within (1 / 2 ^ 60) (significand * 10 ^ exponent) number)
    (hm' : m'.rank = rounded (number * unitsPerOne)) :
    Near (((ofNat significand).scale? exponent).getD infinite) m' := by
  rcases Nat.eq_zero_or_pos significand with rfl | hpos
  · have hnone : number * unitsPerOne < 1 / 2 := by
      have hle := h.le_two_mul' (by norm_num) hnumber
      simp only [Nat.cast_zero, zero_mul, mul_zero] at hle
      rw [le_antisymm hle hnumber, zero_mul]
      norm_num
    have hscale : (ofNat 0).scale? exponent = some zero := by
      rw [scale?, if_pos ofNat_zero]
    have hrank : zero.rank = 0 := rfl
    rw [hscale, Option.getD_some, Near, hm', rounded_of_lt_half hnone, hrank]
    omega
  · rcases lt_or_ge exponent 0 with hneg | hnonneg
    · obtain ⟨size, rfl⟩ : ∃ size : Nat, exponent = -(size : Int) := ⟨exponent.natAbs, by omega⟩
      exact near_scale?_neg hpos hfits (by omega) hnumber h hm'
    · obtain ⟨size, rfl⟩ := Int.eq_ofNat_of_zero_le hnonneg
      exact near_scale?_natCast hpos hfits hnumber h hm'

end Magnitude

end Criteria

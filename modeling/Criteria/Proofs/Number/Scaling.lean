import Criteria.Json.Numeral
import Criteria.Proofs.Number.Rounding

/-!
# Scaling by powers of ten

A magnitude that is scaled by a power of ten is rounded three times: the magnitude, the power and
what comes of them. With small numbers all of this is exact; with others, each rounding adds one
blur.

## Main definitions

* `Criteria.Within` — how far a number is from another, as a share of the other.
* `Criteria.Magnitude.worth` — what a magnitude is worth.

## Main results

* `Criteria.Magnitude.exists_gridUnits` — small numbers times powers of two are on the grid.
* `Criteria.Magnitude.within_worth_ofNat` — how far whole numbers are moved by rounding.
* `Criteria.Magnitude.rank_mul`, `Criteria.Magnitude.rank_div` — products and quotients are rounded
  like their worth.
-/

set_option autoImplicit false
set_option relaxedAutoImplicit false

namespace Criteria

/-! ## Shares -/

/-- A number is no further from another than a share of the other. -/
def Within (share number other : ℚ) : Prop := |number - other| ≤ share * other

namespace Within

variable {share share' a b c d : ℚ}

theorem refl (hshare : 0 ≤ share) (ha : 0 ≤ a) : Within share a a := by
  rw [Within, sub_self, abs_zero]
  exact mul_nonneg hshare ha

theorem mono (h : Within share a b) (hle : share ≤ share') (hb : 0 ≤ b) : Within share' a b :=
  h.trans (mul_le_mul_of_nonneg_right hle hb)

/-- Shares of shares add up, and to them what is a share of both. -/
theorem trans (h : Within share a b) (h' : Within share' b c) (hshare : 0 ≤ share) :
    Within (share + share' + share * share') a c := by
  obtain ⟨hlow, hhigh⟩ := abs_le.mp h
  obtain ⟨hlow', hhigh'⟩ := abs_le.mp h'
  have hbound : share * b ≤ share * (c + share' * c) :=
    mul_le_mul_of_nonneg_left (by linarith) hshare
  rw [Within, abs_le]
  constructor <;> linarith

theorem mul_right (h : Within share a b) (hc : 0 ≤ c) : Within share (a * c) (b * c) := by
  rw [Within, ← sub_mul, abs_mul, abs_of_nonneg hc, ← mul_assoc]
  exact mul_le_mul_of_nonneg_right h hc

/-- A product is off by both shares, and by what is a share of both. -/
theorem mul (h : Within share a b) (h' : Within share' c d) (hshare : 0 ≤ share) (hb : 0 ≤ b)
    (hc : 0 ≤ c) : Within (share + share' + share * share') (a * c) (b * d) := by
  have hright := h'.mul_right hb
  rw [mul_comm c b, mul_comm d b] at hright
  exact (h.mul_right hc).trans hright hshare

/-- The inverse is off by hardly more than the number. -/
theorem inv (h : Within share a b) (hshare : 0 ≤ share) (hsmall : share ≤ 1 / 100) (hb : 0 < b) :
    Within (33 / 32 * share) a⁻¹ b⁻¹ := by
  obtain ⟨hlow, hhigh⟩ := abs_le.mp h
  have hbound : share * b ≤ 1 / 100 * b := mul_le_mul_of_nonneg_right hsmall hb.le
  have hpos : 0 < a := by linarith
  have hdiff : a⁻¹ - b⁻¹ = (b - a) / (a * b) := by
    field_simp
  rw [Within, hdiff, abs_div, abs_of_pos (mul_pos hpos hb), abs_sub_comm,
    div_le_iff₀ (mul_pos hpos hb)]
  have hshares : 33 / 32 * share * b⁻¹ * (a * b) = 33 / 32 * share * a := by
    field_simp
  have hscaled : share * b ≤ share * (33 / 32 * a) :=
    mul_le_mul_of_nonneg_left (by linarith) hshare
  have hle : share * b ≤ 33 / 32 * share * a := by linarith
  rw [hshares]
  exact le_trans h hle

/-- What is off by a share is at most twice as much. -/
theorem le_two_mul (h : Within share a b) (hshare : share ≤ 1) (hb : 0 ≤ b) : a ≤ 2 * b := by
  have hhigh := (abs_le.mp h).2
  have hbound : share * b ≤ 1 * b := mul_le_mul_of_nonneg_right hshare hb
  linarith

/-- What is off by a share that is not large is at least half as much. -/
theorem le_two_mul' (h : Within share a b) (hshare : share ≤ 1 / 2) (hb : 0 ≤ b) : b ≤ 2 * a := by
  have hlow := (abs_le.mp h).1
  have hbound : share * b ≤ 1 / 2 * b := mul_le_mul_of_nonneg_right hshare hb
  linarith

end Within

namespace Magnitude

variable {m m' : Magnitude}

/-! ## Small numbers on the grid -/

/-- Twice what a place is worth is on the grid. -/
theorem exists_gridUnits_double (rank : Nat) : ∃ rank', gridUnits rank' = 2 * gridUnits rank := by
  rcases exists_place rank with h | ⟨shift, fraction, hfraction, rfl⟩
  · refine ⟨2 * rank, ?_⟩
    rw [gridUnits_of_lt (by omega), gridUnits_of_lt (by omega)]
  · have hdouble : Nat.pow 2 (shift + 1) = 2 * Nat.pow 2 shift := Nat.pow_succ'
    refine ⟨(shift + 1 + 1) * binade + fraction, ?_⟩
    rw [gridUnits_place _ hfraction, gridUnits_place _ hfraction, hdouble]
    exact Nat.mul_left_comm _ _ _

/-- **Small numbers times powers of two are on the grid.** -/
theorem exists_gridUnits {n : Nat} (hn : n ≤ 2 * binade) (k : Nat) :
    ∃ rank, gridUnits rank = n * Nat.pow 2 k := by
  induction k with
  | zero =>
    have hone : Nat.pow 2 0 = 1 := rfl
    rw [hone, Nat.mul_one]
    rcases hn.lt_or_eq with hlt | rfl
    · exact ⟨n, gridUnits_of_lt hlt⟩
    · obtain ⟨rank, hrank⟩ := exists_gridUnits_double binade
      refine ⟨rank, ?_⟩
      rw [hrank, gridUnits_of_lt (by have := binade_pos; omega)]
  | succ k ih =>
    have hdouble : Nat.pow 2 (k + 1) = 2 * Nat.pow 2 k := Nat.pow_succ'
    obtain ⟨rank, hrank⟩ := ih
    obtain ⟨rank', hrank'⟩ := exists_gridUnits_double rank
    refine ⟨rank', ?_⟩
    rw [hrank', hrank, hdouble]
    exact Nat.mul_left_comm _ _ _

/-! ## Worths in range -/

/-- What a magnitude is worth. -/
def worth (m : Magnitude) : ℚ := m.units / unitsPerOne

theorem worth_nonneg (m : Magnitude) : 0 ≤ m.worth :=
  div_nonneg (Nat.cast_nonneg _) (Nat.cast_nonneg _)

theorem worth_mul_unitsPerOne (m : Magnitude) : m.worth * unitsPerOne = m.units :=
  div_mul_cancel₀ _ cast_unitsPerOne_pos.ne'

/-- What is worth something has units. -/
theorem units_pos_of_worth_pos (h : 0 < m.worth) : 0 < m.units := by
  rcases Nat.eq_zero_or_pos m.units with hzero | hpos
  · rw [worth, hzero, Nat.cast_zero, zero_div] at h
    exact absurd h (lt_irrefl _)
  · exact hpos

/-- The last place of what is finite. -/
def lastRank : Nat := topRank - 1

theorem lastRank_lt : lastRank < topRank := by decide

/-- What is worth no more than the last finite place is rounded to what is finite. -/
theorem isFinite_of_rank_eq {worth : ℚ} (hrank : m.rank = rounded worth)
    (h : 0 ≤ worth) (hle : worth ≤ gridUnits lastRank) :
    m.isFinite = true ∧ m.units = gridUnits (place worth) := by
  have hlt : place worth < topRank := place_lt_topRank lastRank_lt h hle
  have heq : m.rank = place worth := hrank.trans (Nat.min_eq_left hlt.le)
  refine ⟨?_, ?_⟩
  · rw [isFinite, heq]
    exact decide_eq_true hlt
  · rw [units, heq]

/-- Magnitudes at the same place are equal. -/
theorem ext_rank (h : m.rank = m'.rank) : m = m' := by
  cases m
  cases m'
  simpa using h

/-- **Products are rounded like their worth.** -/
theorem rank_mul (m m' : Magnitude) :
    (m.mul m').rank = rounded (m.worth * m'.worth * unitsPerOne) := by
  have hone := cast_unitsPerOne_pos
  have hpos : 0 < unitsPerOne * unitsPerOne :=
    Nat.mul_pos (Nat.cast_pos.mp hone) (Nat.cast_pos.mp hone)
  have hworth : (((m.units * m'.units * unitsPerOne : Nat) : ℚ) /
      (unitsPerOne * unitsPerOne : Nat)) = m.worth * m'.worth * unitsPerOne := by
    unfold worth
    push_cast
    field_simp
  rw [mul, rank_nearest _ hpos, hworth]

/-- **Quotients are rounded like their worth.** -/
theorem rank_div (m : Magnitude) (hm' : 0 < m'.units) :
    (m.div m').rank = rounded (m.worth / m'.worth * unitsPerOne) := by
  have hworth : (((m.units * unitsPerOne : Nat) : ℚ) / m'.units) =
      m.worth / m'.worth * unitsPerOne := by
    rw [worth, worth, div_div_div_cancel_right₀ cast_unitsPerOne_pos.ne', div_mul_eq_mul_div,
      Nat.cast_mul]
  rw [div, rank_nearest _ hm', hworth]

/-! ## Whole numbers -/

/-- **Whole numbers are rounded like their worth.** -/
theorem rank_ofNat (n : Nat) : (ofNat n).rank = rounded (n * unitsPerOne) := by
  have hworth : (((n * unitsPerOne : Nat) : ℚ) / (1 : Nat)) = n * unitsPerOne := by
    push_cast
    ring
  rw [ofNat, rank_nearest _ Nat.one_pos, hworth]

/-- What has been rounded is not moved. -/
theorem rounded_units (m : Magnitude) : rounded m.units = m.rank := by
  rw [rounded, units, place_gridUnits, Nat.min_eq_left m.rank_le]

/-- **Small numbers times powers of two are not moved by rounding,** if they are in range. -/
theorem worth_ofNat_mul_pow {n k : Nat} (hn : n ≤ 2 * binade)
    (hle : n * Nat.pow 2 k * unitsPerOne ≤ gridUnits lastRank) :
    (ofNat (n * Nat.pow 2 k)).worth = (n * Nat.pow 2 k : Nat) := by
  obtain ⟨rank, hrank⟩ := exists_gridUnits hn (k + 1074)
  have hadd : Nat.pow 2 (k + 1074) = Nat.pow 2 k * unitsPerOne := Nat.pow_add 2 k 1074
  rw [hadd, ← Nat.mul_assoc] at hrank
  generalize n * Nat.pow 2 k = number at hrank hle ⊢
  have hworth : (number * unitsPerOne : ℚ) = (gridUnits rank : Nat) := by
    rw [hrank, Nat.cast_mul]
  have hcast : (number * unitsPerOne : ℚ) ≤ gridUnits lastRank := by exact_mod_cast hle
  have hunits := (isFinite_of_rank_eq (rank_ofNat number)
    (mul_nonneg (Nat.cast_nonneg _) (Nat.cast_nonneg _)) hcast).2
  rw [worth, hunits, hworth, place_gridUnits, ← hworth,
    mul_div_cancel_right₀ _ cast_unitsPerOne_pos.ne']

/-- **How far whole numbers are moved by rounding:** half a step, the 53rd binary digit. -/
theorem within_worth_ofNat {n : Nat} (hpos : 0 < n) (hle : n * unitsPerOne ≤ gridUnits lastRank) :
    Within (1 / 2 ^ 53) (ofNat n).worth n := by
  have hone := cast_unitsPerOne_pos
  have hcast : (n * unitsPerOne : ℚ) ≤ gridUnits lastRank := by exact_mod_cast hle
  have hnonneg : (0 : ℚ) ≤ n * unitsPerOne := mul_nonneg (Nat.cast_nonneg _) (Nat.cast_nonneg _)
  have hunits := (isFinite_of_rank_eq (rank_ofNat n) hnonneg hcast).2
  have herror := abs_gridUnits_place_sub_le hnonneg
  have hblur : blur (n * unitsPerOne) = n * unitsPerOne / 2 ^ 53 := by
    have hlarge : 2 ^ 53 ≤ unitsPerOne := Nat.pow_le_pow_right (by decide) (by decide)
    have hworth : ((2 : ℚ) ^ 53) ≤ n * unitsPerOne := by
      exact_mod_cast hlarge.trans (Nat.le_mul_of_pos_left _ hpos)
    apply max_eq_left
    rw [le_div_iff₀ (by positivity)]
    linarith
  have hdiff : (ofNat n).worth - n = ((ofNat n).units - n * unitsPerOne) / unitsPerOne := by
    rw [worth, sub_div, mul_div_cancel_right₀ _ hone.ne']
  rw [Within, hdiff, abs_div, abs_of_pos hone, div_le_iff₀ hone, hunits]
  rw [hblur] at herror
  exact herror.trans (le_of_eq (by ring))

/-! ## Powers of ten -/

/-- The numbers up to the largest power of ten below infinity are finite. -/
theorem mul_unitsPerOne_le_lastRank {n : Nat} (hn : n ≤ Nat.pow 10 maxPowerOfTen) :
    n * unitsPerOne ≤ gridUnits lastRank := by
  have hlast : Nat.pow 10 maxPowerOfTen * unitsPerOne ≤ gridUnits lastRank := by decide +kernel
  exact (Nat.mul_le_mul_right _ hn).trans hlast

/-- The powers of ten up to that one are finite. -/
theorem pow_ten_mul_le {k : Nat} (hk : k ≤ maxPowerOfTen) :
    Nat.pow 10 k * unitsPerOne ≤ gridUnits lastRank :=
  mul_unitsPerOne_le_lastRank (pow_ten_mono hk)

/-- How far powers of ten are moved by rounding. -/
theorem within_worth_powerOfTen {k : Nat} (hk : k ≤ maxPowerOfTen) :
    Within (1 / 2 ^ 53) (powerOfTen k).worth (10 ^ (k : Int)) := by
  have hwithin := within_worth_ofNat (pow_ten_pos k) (pow_ten_mul_le hk)
  rwa [cast_pow_ten] at hwithin

/-- Up to `10²²`, powers of ten are not moved. -/
theorem worth_powerOfTen_of_le {k : Nat} (hk : k ≤ 22) :
    (powerOfTen k).worth = 10 ^ (k : Int) := by
  have hfive : Nat.pow 5 k ≤ 2 * binade :=
    (Nat.pow_le_pow_right (by decide) hk).trans (by decide : Nat.pow 5 22 ≤ 2 * binade)
  have hten : Nat.pow 10 k = Nat.pow 5 k * Nat.pow 2 k := Nat.mul_pow 5 2 k
  have hbound : k ≤ maxPowerOfTen := by
    unfold maxPowerOfTen
    omega
  have hrange := pow_ten_mul_le hbound
  rw [hten] at hrange
  rw [powerOfTen, ← cast_pow_ten, hten]
  exact worth_ofNat_mul_pow hfive hrange

end Magnitude

end Criteria

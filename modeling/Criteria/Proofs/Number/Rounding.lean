import Criteria.Number.Numeral
import Criteria.Proofs.Number.Grid
import Mathlib.Algebra.Order.Field.Basic
import Mathlib.Algebra.Order.Floor.Semifield
import Mathlib.Data.Rat.Floor
import Mathlib.Tactic.FieldSimp
import Mathlib.Tactic.Linarith
import Mathlib.Tactic.NormNum

/-!
# Rounding

What a quotient is rounded to depends on its worth alone and increases with it, and it is no further
away than half the step to the next place. Two worths that are near to each other are rounded to
places that are near to each other.

## Main definitions

* `Criteria.Magnitude.step` — how much more the next place is worth.
* `Criteria.Magnitude.place` — the place that a worth is rounded to, if places go on for ever.
* `Criteria.Magnitude.blur` — how far rounding moves a worth at most.
* `Criteria.Magnitude.rounded` — the place that a worth is rounded to in the format.
* `Criteria.Decimal.units` — the worth of a decimal.

## Main results

* `Criteria.Magnitude.rank_nearest` — rounding a quotient is rounding its worth.
* `Criteria.Magnitude.place_mono` — a worth that is no less is rounded to no earlier a place.
* `Criteria.Magnitude.abs_gridUnits_place_sub_le` — rounding moves a worth by its blur at most.
* `Criteria.Magnitude.place_near` — worths a few blurs apart are rounded to places that are
  no further apart than that.
* `Criteria.Decimal.rank_nearest` — rounding a decimal is rounding its worth, whichever guard
  decides it.

## Implementation notes

A worth is a rational number of units. Infinity has a worth and further places follow it, as if
there were no largest exponent; the last step of rounding cuts them off.
-/

set_option autoImplicit false
set_option relaxedAutoImplicit false

namespace Criteria

namespace Magnitude

/-! ## Steps between places -/

/-- How much more the next place is worth. -/
def step (rank : Nat) : Nat := gridUnits (rank + 1) - gridUnits rank

/-- The next place is worth a step more. -/
theorem gridUnits_succ (rank : Nat) : gridUnits (rank + 1) = gridUnits rank + step rank := by
  have hlt := gridUnits_lt_succ rank
  unfold step
  omega

/-- A step is not nothing. -/
theorem step_pos (rank : Nat) : 0 < step rank := by
  have hlt := gridUnits_lt_succ rank
  unfold step
  omega

/-- In the first two binades a step is a unit. -/
theorem step_of_lt {rank : Nat} (h : rank < binade) : step rank = 1 := by
  unfold step
  rw [gridUnits_of_lt (by omega), gridUnits_of_lt (by omega)]
  omega

/-- Behind the first binade a step is a power of two. -/
theorem step_place {fraction : Nat} (shift : Nat) (h : fraction < binade) :
    step ((shift + 1) * binade + fraction) = Nat.pow 2 shift := by
  have hdouble : Nat.pow 2 (shift + 1) = 2 * Nat.pow 2 shift := Nat.pow_succ'
  have hworth := gridUnits_place shift h
  have hnext : gridUnits ((shift + 1) * binade + fraction + 1) =
      (binade + fraction + 1) * Nat.pow 2 shift := by
    rcases Nat.lt_or_ge (fraction + 1) binade with hlt | hge
    · rw [Nat.add_assoc, gridUnits_place shift hlt, Nat.add_assoc]
    · have hlast : binade + fraction + 1 = binade * 2 := by omega
      have hplace : (shift + 1) * binade + fraction + 1 = (shift + 1 + 1) * binade + 0 := by
        rw [Nat.add_mul (shift + 1)]
        omega
      rw [hplace, gridUnits_place (shift + 1) binade_pos, hdouble, hlast, Nat.mul_assoc,
        Nat.add_zero]
  rw [step, hnext, hworth, Nat.add_mul (binade + fraction), Nat.one_mul, Nat.add_sub_cancel_left]

/-- A place is worth less than as many steps as two binades have places. -/
theorem gridUnits_lt_step (rank : Nat) : gridUnits rank < 2 * binade * step rank := by
  rcases exists_place rank with h | ⟨shift, fraction, hfraction, rfl⟩
  · rw [step_of_lt h, gridUnits_of_lt (by omega)]
    omega
  · rw [step_place shift hfraction, gridUnits_place shift hfraction]
    exact Nat.mul_lt_mul_of_pos_right (by omega) (Nat.two_pow_pos shift)

/-- A step is a unit, or the place is worth at least as many steps as a binade has places. -/
theorem step_eq_one_or_le (rank : Nat) : step rank = 1 ∨ binade * step rank ≤ gridUnits rank := by
  rcases exists_place rank with h | ⟨shift, fraction, hfraction, rfl⟩
  · exact .inl (step_of_lt h)
  · rw [step_place shift hfraction, gridUnits_place shift hfraction]
    exact .inr (Nat.mul_le_mul_right _ (Nat.le_add_right _ _))

/-- Steps do not become smaller. -/
theorem monotone_step : Monotone step := by
  apply monotone_nat_of_le_succ
  intro rank
  have hbinade := binade_pos
  rcases exists_place rank with h | ⟨shift, fraction, hfraction, rfl⟩
  · rw [step_of_lt h]
    exact step_pos (rank + 1)
  · rw [step_place shift hfraction]
    rcases Nat.lt_or_ge (fraction + 1) binade with hlt | hge
    · rw [Nat.add_assoc, step_place shift hlt]
    · have hplace : (shift + 1) * binade + fraction + 1 = (shift + 1 + 1) * binade + 0 := by
        rw [Nat.add_mul (shift + 1)]
        omega
      rw [hplace, step_place (shift + 1) hbinade]
      exact Nat.pow_le_pow_right (by decide) (Nat.le_succ shift)

/-- A number of places further on, the worth is at least that many steps more. -/
theorem gridUnits_add_mul_step_le (rank places : Nat) :
    gridUnits rank + places * step rank ≤ gridUnits (rank + places) := by
  induction places with
  | zero => simp
  | succ places ih =>
    have hstep := monotone_step (Nat.le_add_right rank places)
    rw [← Nat.add_assoc, gridUnits_succ, Nat.add_mul, Nat.one_mul]
    omega

/-! ## The last place below -/

/-- **A worth lies between the last place below it and the next one.**

**Proof sketch.** Below two binades a place is worth its number. Above, the logarithm tells how many
binary digits are cut off; what is left is the significand of the place below, and what is cut off
is less than a step. -/
theorem gridRank_spec (units : Nat) :
    gridUnits (gridRank units) ≤ units ∧ units < gridUnits (gridRank units + 1) := by
  have hbinade : 2 ^ 52 = binade := binade_eq_two_pow.symm
  rcases Nat.lt_or_ge units (2 * binade) with h | h
  · have hlog : units.log2 - 52 = 0 := by
      rcases Nat.eq_zero_or_pos units with rfl | hpos
      · rfl
      · have hlt : units.log2 < 53 := (Nat.log2_lt (by omega)).2 (by omega)
        omega
    have hrank : gridRank units = units := by
      unfold gridRank
      rw [hlog]
      simp
    have hworth : gridUnits units = units := gridUnits_of_lt h
    have hnext := gridUnits_lt_succ units
    rw [hrank]
    omega
  · obtain ⟨shift, hshift⟩ : ∃ shift, units.log2 = shift + 1 + 52 := by
      have hlog : 53 ≤ units.log2 := (Nat.le_log2 (by omega)).2 (by omega)
      exact ⟨units.log2 - 53, by omega⟩
    obtain ⟨hlower, hupper⟩ := (Nat.log2_eq_iff (by omega)).1 hshift
    have hpos : 0 < 2 ^ (shift + 1) := Nat.two_pow_pos _
    have hlow : binade ≤ units / 2 ^ (shift + 1) := by
      rw [Nat.le_div_iff_mul_le hpos, ← hbinade, Nat.mul_comm, ← Nat.pow_add]
      exact hlower
    have hhigh : units / 2 ^ (shift + 1) < 2 * binade := by
      rw [Nat.div_lt_iff_lt_mul hpos, ← hbinade, ← Nat.pow_succ', Nat.mul_comm, ← Nat.pow_add]
      exact hupper
    obtain ⟨fraction, hfraction⟩ := Nat.exists_eq_add_of_le hlow
    have hrank : gridRank units = (shift + 1 + 1) * binade + fraction := by
      have hquotient : units / Nat.pow 2 (shift + 1) = binade + fraction := hfraction
      unfold gridRank
      rw [hshift, Nat.add_sub_cancel]
      dsimp only
      rw [hquotient, Nat.add_mul (shift + 1), Nat.one_mul, Nat.add_assoc]
    have hmod := Nat.div_add_mod units (2 ^ (shift + 1))
    have hrest := Nat.mod_lt units hpos
    rw [hfraction] at hmod
    rw [hrank, gridUnits_succ, gridUnits_place _ (by omega), step_place _ (by omega), Nat.mul_comm]
    change 2 ^ (shift + 1) * _ ≤ units ∧ units < 2 ^ (shift + 1) * _ + 2 ^ (shift + 1)
    omega

/-! ## The place of a worth -/

/-- The last place below a worth. -/
def below (worth : ℚ) : Nat := gridRank ⌊worth⌋₊

/-- The place that a worth in units is rounded to if places go on for ever: the nearer neighbour,
and of two equally near the one with an even number. -/
def place (worth : ℚ) : Nat :=
  let middle : ℚ := gridUnits (below worth) + gridUnits (below worth + 1)
  if 2 * worth < middle then below worth
  else if middle < 2 * worth then below worth + 1
  else if below worth % 2 = 0 then below worth
  else below worth + 1

variable {worth worth' : ℚ}

theorem gridUnits_below_le (h : 0 ≤ worth) : (gridUnits (below worth) : ℚ) ≤ worth :=
  (Nat.cast_le.mpr (gridRank_spec ⌊worth⌋₊).1).trans (Nat.floor_le h)

theorem lt_gridUnits_below_succ (worth : ℚ) : worth < gridUnits (below worth + 1) :=
  (Nat.floor_lt' (by have := gridUnits_lt_succ (below worth); omega)).mp
    (gridRank_spec ⌊worth⌋₊).2

/-- A worth is rounded to one of its two neighbours. -/
theorem place_mem (worth : ℚ) : place worth = below worth ∨ place worth = below worth + 1 := by
  unfold place
  dsimp only
  split_ifs <;> simp

/-- What is on the grid is its own last place below. -/
theorem below_gridUnits (rank : Nat) : below (gridUnits rank) = rank := by
  rw [below, Nat.floor_natCast, gridRank_gridUnits]

/-- What is on the grid is not moved. -/
theorem place_gridUnits (rank : Nat) : place (gridUnits rank) = rank := by
  have hnext : (gridUnits rank : ℚ) < gridUnits (rank + 1) :=
    Nat.cast_lt.mpr (gridUnits_lt_succ rank)
  unfold place
  dsimp only
  rw [below_gridUnits, if_pos (by linarith)]

/-- The last place below does not become earlier. -/
theorem below_mono (h : 0 ≤ worth) (hle : worth ≤ worth') : below worth ≤ below worth' := by
  have hlt : (gridUnits (below worth) : ℚ) < gridUnits (below worth' + 1) :=
    ((gridUnits_below_le h).trans hle).trans_lt (lt_gridUnits_below_succ worth')
  exact Nat.lt_succ_iff.mp (strictMono_gridUnits.lt_iff_lt.mp (Nat.cast_lt.mp hlt))

/-- **A worth that is no less is rounded to no earlier a place.** -/
theorem place_mono (h : 0 ≤ worth) (hle : worth ≤ worth') : place worth ≤ place worth' := by
  rcases (below_mono h hle).lt_or_eq with hlt | heq
  · have hplace := place_mem worth
    have hplace' := place_mem worth'
    omega
  · unfold place
    dsimp only
    rw [heq]
    split_ifs <;> first | omega | linarith

/-- What is rounded to no later a place than one with an odd number: a tie goes to the place behind
it. -/
theorem place_le_iff_of_odd {rank : Nat} (hodd : rank % 2 = 1) (h : 0 ≤ worth) :
    place worth ≤ rank ↔ 2 * worth < gridUnits rank + gridUnits (rank + 1) := by
  have hstep : (gridUnits rank : ℚ) < gridUnits (rank + 1) :=
    Nat.cast_lt.mpr (gridUnits_lt_succ rank)
  constructor
  · intro hplace
    by_contra hnot
    have hgrid : (gridUnits rank : ℚ) ≤ worth := by linarith
    have hbelow : rank ≤ below worth := below_gridUnits rank ▸ below_mono (Nat.cast_nonneg _) hgrid
    -- the place is not before the last one below, which is then the odd one
    have hmem := place_mem worth
    have heq : below worth = rank := by omega
    unfold place at hplace
    dsimp only at hplace
    rw [heq, if_neg hnot] at hplace
    split_ifs at hplace <;> omega
  · intro hlt
    have hnext : below worth < rank + 1 := by
      have hgrid := (gridUnits_below_le h).trans_lt (show worth < gridUnits (rank + 1) by linarith)
      exact strictMono_gridUnits.lt_iff_lt.mp (Nat.cast_lt.mp hgrid)
    rcases Nat.lt_or_ge (below worth) rank with hbefore | hge
    · have hmem := place_mem worth
      omega
    · have heq : below worth = rank := by omega
      unfold place
      dsimp only
      rw [heq, if_pos hlt]

/-! ## How far rounding moves -/

/-- How far rounding moves a worth at most: half a unit, or half a step. -/
def blur (worth : ℚ) : ℚ := max (worth / 2 ^ 53) (1 / 2)

/-- A step at the last place below is at most twice the blur. -/
theorem step_below_le (h : 0 ≤ worth) : (step (below worth) : ℚ) ≤ 2 * blur worth := by
  have hbelow := gridUnits_below_le h
  rcases step_eq_one_or_le (below worth) with hone | hle
  · have hhalf : (1 / 2 : ℚ) ≤ blur worth := le_max_right _ _
    rw [hone]
    push_cast
    linarith
  · have hshare : worth / 2 ^ 53 ≤ blur worth := le_max_left _ _
    have hbinade : ((2 : ℚ) ^ 52) * step (below worth) ≤ gridUnits (below worth) := by
      have hcast : ((binade * step (below worth) : Nat) : ℚ) ≤ gridUnits (below worth) :=
        Nat.cast_le.mpr hle
      push_cast [binade] at hcast
      linarith
    rw [div_le_iff₀ (by positivity)] at hshare
    linarith

/-- **Rounding moves a worth by its blur at most.** -/
theorem abs_gridUnits_place_sub_le (h : 0 ≤ worth) :
    |(gridUnits (place worth) : ℚ) - worth| ≤ blur worth := by
  have hlower := gridUnits_below_le h
  have hupper := lt_gridUnits_below_succ worth
  have hstep := step_below_le h
  have hnext :
      (gridUnits (below worth + 1) : ℚ) = gridUnits (below worth) + step (below worth) := by
    rw [gridUnits_succ, Nat.cast_add]
  rw [abs_le]
  unfold place
  dsimp only
  split_ifs <;> constructor <;> linarith

/-- Places whose worths are less than some steps apart are no further apart than that. -/
theorem le_add_of_gridUnits_lt {rank rank' places : Nat}
    (h : (gridUnits rank' : ℚ) <
      gridUnits rank + (places + 1) * max ((gridUnits rank : ℚ) / 2 ^ 53) 1) :
    rank' ≤ rank + places := by
  by_contra hnot
  have hfar : gridUnits rank + (places + 1) * step rank ≤ gridUnits rank' :=
    (gridUnits_add_mul_step_le rank (places + 1)).trans
      (strictMono_gridUnits.monotone (by omega))
  have hstep : max ((gridUnits rank : ℚ) / 2 ^ 53) 1 ≤ (step rank : ℚ) := by
    apply max_le
    · have hworth : (gridUnits rank : ℚ) ≤ ((2 * binade * step rank : Nat) : ℚ) :=
        Nat.cast_le.mpr (gridUnits_lt_step rank).le
      rw [div_le_iff₀ (by positivity)]
      push_cast [binade] at hworth
      linarith
    · exact_mod_cast step_pos rank
  have hcast : (gridUnits rank : ℚ) + (places + 1) * step rank ≤ gridUnits rank' := by
    exact_mod_cast hfar
  have hmul :
      ((places : ℚ) + 1) * max ((gridUnits rank : ℚ) / 2 ^ 53) 1 ≤ (places + 1) * step rank :=
    mul_le_mul_of_nonneg_left hstep (by positivity)
  linarith

theorem blur_pos (worth : ℚ) : 0 < blur worth := lt_max_of_lt_right (by norm_num)

/-- The blur of what is hardly more is hardly more. -/
theorem blur_le_blur (h : worth' ≤ worth + 1002 * blur worth) :
    blur worth' ≤ 33 / 32 * blur worth := by
  have hshare : worth / 2 ^ 53 ≤ blur worth := le_max_left _ _
  have hhalf : 1 / 2 ≤ blur worth := le_max_right _ _
  rw [div_le_iff₀ (by positivity)] at hshare
  apply max_le
  · rw [div_le_iff₀ (by positivity)]
    linarith
  · linarith

/-- A blur is hardly more than a step, or than a unit, of what is near. -/
theorem blur_le_of_near {grid : ℚ} (h : worth - 1002 * blur worth ≤ grid) :
    2047 / 2048 * blur worth ≤ max (grid / 2 ^ 53) 1 := by
  have hpos := blur_pos worth
  rcases max_choice (worth / 2 ^ 53) (1 / 2) with hworth | hhalf
  · have hblur : blur worth = worth / 2 ^ 53 := hworth
    refine le_max_of_le_left ?_
    rw [le_div_iff₀ (by positivity)]
    rw [hblur] at h ⊢
    linarith
  · have hblur : blur worth = 1 / 2 := hhalf
    refine le_max_of_le_right ?_
    rw [hblur]
    norm_num

/-- **Worths a few blurs apart are rounded to places that are no further apart than that,** with one
blur more for each of the two roundings.

**Proof sketch.** What the worths are rounded to is at most so many blurs apart, and a blur is no
more than a step at either place. -/
theorem place_near {blurs : Nat} (hblurs : blurs ≤ 1000) (h : 0 ≤ worth) (h' : 0 ≤ worth')
    (hnear : |worth' - worth| ≤ (blurs + 1 / 4) * blur worth) :
    place worth' ≤ place worth + (blurs + 2) ∧ place worth ≤ place worth' + (blurs + 2) := by
  have hpos := blur_pos worth
  have hcount : (blurs : ℚ) * blur worth ≤ 1000 * blur worth :=
    mul_le_mul_of_nonneg_right (by exact_mod_cast hblurs) hpos.le
  obtain ⟨hlow, hhigh⟩ := abs_le.mp hnear
  obtain ⟨hplace, hplace₂⟩ := abs_le.mp (abs_gridUnits_place_sub_le h)
  obtain ⟨hplace', hplace₂'⟩ := abs_le.mp (abs_gridUnits_place_sub_le h')
  have hblur' : blur worth' ≤ 33 / 32 * blur worth := blur_le_blur (by linarith)
  have hstep : 2047 / 2048 * blur worth ≤ max ((gridUnits (place worth) : ℚ) / 2 ^ 53) 1 :=
    blur_le_of_near (by linarith)
  have hstep' : 2047 / 2048 * blur worth ≤ max ((gridUnits (place worth') : ℚ) / 2 ^ 53) 1 :=
    blur_le_of_near (by linarith)
  have hsteps := mul_le_mul_of_nonneg_left hstep (show (0 : ℚ) ≤ blurs + 3 by positivity)
  have hsteps' := mul_le_mul_of_nonneg_left hstep' (show (0 : ℚ) ≤ blurs + 3 by positivity)
  constructor
  · apply le_add_of_gridUnits_lt
    push_cast
    linarith
  · apply le_add_of_gridUnits_lt
    push_cast
    linarith

/-! ## Rounding quotients -/

/-- Quotients are compared with whole numbers without dividing. -/
theorem two_mul_div_lt_iff (units middle : Nat) {den : Nat} (hden : 0 < den) :
    (2 * ((units : ℚ) / den) < middle ↔ 2 * units < middle * den) ∧
      ((middle : ℚ) < 2 * ((units : ℚ) / den) ↔ middle * den < 2 * units) := by
  have hden' : (0 : ℚ) < den := Nat.cast_pos.mpr hden
  rw [← mul_div_assoc, div_lt_iff₀ hden', lt_div_iff₀ hden']
  norm_cast

theorem rank_infinite : infinite.rank = topRank := rfl

theorem rank_ofRank (rank : Nat) : (ofRank rank).rank = min rank topRank := rfl

/-- A quotient is rounded from the last place below it like its worth. -/
theorem roundFrom_eq_place (num : Nat) {den : Nat} (hden : 0 < den) :
    roundFrom (gridRank (num * unitsPerOne / den)) num den =
      place (((num * unitsPerOne : Nat) : ℚ) / den) := by
  rw [roundFrom]
  generalize num * unitsPerOne = units
  have hbelow : below ((units : ℚ) / den) = gridRank (units / den) := by
    rw [below, Nat.floor_div_eq_div]
  obtain ⟨hlt, hgt⟩ := two_mul_div_lt_iff units
    (gridUnits (gridRank (units / den)) + gridUnits (gridRank (units / den) + 1)) hden
  rw [Nat.cast_add] at hlt hgt
  unfold place
  dsimp only
  simp only [hbelow, hlt, hgt]

/-- The place that a worth is rounded to in the format: infinity for what comes behind it. -/
def rounded (worth : ℚ) : Nat := min (place worth) topRank

/-- **Rounding a quotient is rounding its worth.** -/
theorem rank_nearest (num : Nat) {den : Nat} (hden : 0 < den) :
    (nearest num den).rank = rounded (((num * unitsPerOne : Nat) : ℚ) / den) := by
  have hmem := place_mem (((num * unitsPerOne : Nat) : ℚ) / den)
  rw [below, Nat.floor_div_eq_div] at hmem
  rw [nearest, roundFrom_eq_place num hden, rounded]
  split
  · next htop =>
    rw [rank_infinite]
    omega
  · exact rank_ofRank _

/-! ## The ends of the range -/

/-- A worth that is no less is rounded to no earlier a place of the format. -/
theorem rounded_mono (h : 0 ≤ worth) (hle : worth ≤ worth') : rounded worth ≤ rounded worth' :=
  min_le_min_right topRank (place_mono h hle)

/-- What is worth as much as infinity is rounded to infinity. -/
theorem rounded_of_topRank_le (h : gridUnits topRank ≤ worth) : rounded worth = topRank := by
  have hplace := place_mono (Nat.cast_nonneg _) h
  rw [place_gridUnits] at hplace
  exact Nat.min_eq_right hplace

/-- What is worth no more than a place before infinity is rounded to what is finite. -/
theorem place_lt_topRank {rank : Nat} (hrank : rank < topRank) (h : 0 ≤ worth)
    (hle : worth ≤ gridUnits rank) : place worth < topRank := by
  have hplace := place_mono h hle
  rw [place_gridUnits] at hplace
  omega

/-- What is worth less than half a unit is rounded to nothing. -/
theorem rounded_of_lt_half (hlt : worth < 1 / 2) : rounded worth = 0 := by
  have hbelow : below worth = 0 := by
    rw [below, Nat.floor_eq_zero.mpr (by linarith)]
    rfl
  have hzero : gridUnits 0 = 0 := rfl
  have hone : gridUnits (0 + 1) = 1 := rfl
  unfold rounded place
  dsimp only
  rw [hbelow, hzero, hone, if_pos (by push_cast; linarith), Nat.zero_min]

theorem cast_unitsPerOne_pos : (0 : ℚ) < unitsPerOne := by
  have hpos : 0 < unitsPerOne := Nat.pow_pos (by decide)
  exact Nat.cast_pos.mpr hpos

/-- Infinity is worth less than half of `10³⁰⁹`. -/
theorem two_mul_gridUnits_topRank_le : 2 * gridUnits topRank ≤ Nat.pow 10 309 * unitsPerOne := by
  decide +kernel

/-- One is worth less than half of `10³²⁴` units. -/
theorem two_mul_unitsPerOne_le : 2 * unitsPerOne ≤ Nat.pow 10 324 := by
  decide +kernel

/-- A larger exponent makes a larger power of ten. -/
theorem pow_ten_mono {a b : Nat} (h : a ≤ b) : Nat.pow 10 a ≤ Nat.pow 10 b :=
  Nat.pow_le_pow_right (by decide) h

theorem cast_pow_ten (k : Nat) : ((Nat.pow 10 k : Nat) : ℚ) = 10 ^ (k : Int) := by
  rw [zpow_natCast]
  exact Nat.cast_pow 10 k

/-- A large power of ten is worth twice as much as infinity. -/
theorem two_mul_topRank_le_zpow {exponent : Int} (h : 309 ≤ exponent) :
    2 * (gridUnits topRank : ℚ) ≤ 10 ^ exponent * unitsPerOne := by
  obtain ⟨k, rfl⟩ := Int.eq_ofNat_of_zero_le (show 0 ≤ exponent by omega)
  have hpow := pow_ten_mono (show 309 ≤ k by omega)
  have hnat : 2 * gridUnits topRank ≤ Nat.pow 10 k * unitsPerOne :=
    two_mul_gridUnits_topRank_le.trans (Nat.mul_le_mul_right unitsPerOne hpow)
  rw [← cast_pow_ten]
  exact_mod_cast hnat

/-- A small power of ten is worth no more than half a unit. -/
theorem two_mul_zpow_le {exponent : Int} (h : exponent ≤ -324) :
    2 * (10 ^ exponent * unitsPerOne : ℚ) ≤ 1 := by
  obtain ⟨k, hk⟩ := Int.eq_ofNat_of_zero_le (show 0 ≤ -exponent by omega)
  have hpow := pow_ten_mono (show 324 ≤ k by omega)
  have hnat : 2 * unitsPerOne ≤ Nat.pow 10 k := two_mul_unitsPerOne_le.trans hpow
  have hcast : (2 * unitsPerOne : ℚ) ≤ 10 ^ (k : Int) := by
    rw [← cast_pow_ten]
    exact_mod_cast hnat
  have hpos : (0 : ℚ) < 10 ^ (k : Int) := zpow_pos (by norm_num) _
  obtain rfl : exponent = -(k : Int) := by omega
  rw [zpow_neg, inv_mul_eq_div, ← mul_div_assoc, div_le_one hpos]
  exact hcast

end Magnitude

/-! ## Rounding decimals -/

namespace Decimal

open Magnitude

variable {d : Decimal}

/-- The worth of a decimal, in units. -/
def units (d : Decimal) : ℚ := d.coefficient * 10 ^ d.exponent * unitsPerOne

theorem units_nonneg (d : Decimal) : 0 ≤ d.units :=
  mul_nonneg (mul_nonneg (Nat.cast_nonneg _) (zpow_nonneg (by norm_num) _)) (Nat.cast_nonneg _)

/-- A decimal with a coefficient is worth at least its power of ten. -/
theorem zpow_mul_le_units (h : d.coefficient ≠ 0) :
    (10 : ℚ) ^ d.exponent * unitsPerOne ≤ d.units := by
  have hone : (1 : ℚ) ≤ d.coefficient := by exact_mod_cast Nat.pos_of_ne_zero h
  have hpos : (0 : ℚ) ≤ 10 ^ d.exponent * unitsPerOne :=
    mul_nonneg (zpow_nonneg (by norm_num) _) (Nat.cast_nonneg _)
  rw [units, mul_assoc]
  exact le_mul_of_one_le_left hpos hone

/-- A decimal is worth less than a power of ten with as many more digits as its coefficient has in
binary. -/
theorem units_lt_zpow_mul (d : Decimal) :
    d.units < 10 ^ (d.exponent + (d.coefficient.log2 + 1 : Nat)) * unitsPerOne := by
  have hten : (0 : ℚ) < 10 ^ d.exponent := zpow_pos (by norm_num) _
  have hdigits : d.coefficient < 10 ^ (d.coefficient.log2 + 1) :=
    Nat.lt_log2_self.trans_le (Nat.pow_le_pow_left (by decide) _)
  have hcast : (d.coefficient : ℚ) < 10 ^ (d.coefficient.log2 + 1) := by exact_mod_cast hdigits
  rw [zpow_add₀ (by norm_num), zpow_natCast, mul_comm ((10 : ℚ) ^ d.exponent), units]
  exact mul_lt_mul_of_pos_right (mul_lt_mul_of_pos_right hcast hten) cast_unitsPerOne_pos

/-- **Rounding a decimal is rounding its worth.** What the guards take for infinite is too large for
the format, and what they take for nothing is less than half a unit. -/
theorem rank_nearest (d : Decimal) : d.nearest.rank = rounded d.units := by
  unfold nearest
  split_ifs with hzero hlarge hsmall hwhole
  · have hworth : d.units = 0 := by
      rw [units, hzero, Nat.cast_zero, zero_mul, zero_mul]
    rw [hworth, rounded_of_lt_half (by norm_num)]
    rfl
  · have hbound := two_mul_topRank_le_zpow (show 309 ≤ d.exponent by omega)
    have htop : (gridUnits topRank : ℚ) ≤ d.units := by
      have hnonneg : (0 : ℚ) ≤ gridUnits topRank := Nat.cast_nonneg _
      have hle := zpow_mul_le_units hzero
      linarith
    exact (rounded_of_topRank_le htop).symm
  · have hexponent : d.exponent + (d.coefficient.log2 + 1 : Nat) ≤ -324 := by omega
    have hbound := two_mul_zpow_le hexponent
    have hlt := units_lt_zpow_mul d
    rw [rounded_of_lt_half (by linarith)]
    rfl
  · have hworth : (((d.coefficient * Nat.pow 10 d.exponent.toNat * unitsPerOne : Nat) : ℚ) /
        (1 : Nat)) = d.units := by
      rw [Nat.cast_mul, Nat.cast_mul, cast_pow_ten, Int.toNat_of_nonneg hwhole, Nat.cast_one,
        div_one, units]
    rw [Magnitude.rank_nearest _ Nat.one_pos, hworth]
  · have hworth : (((d.coefficient * unitsPerOne : Nat) : ℚ) /
        (Nat.pow 10 (-d.exponent).toNat : Nat)) = d.units := by
      rw [Nat.cast_mul, cast_pow_ten, Int.toNat_of_nonneg (by omega), zpow_neg, div_inv_eq_mul,
        units]
      ring
    rw [Magnitude.rank_nearest _ (pow_ten_pos _), hworth]

end Decimal

end Criteria

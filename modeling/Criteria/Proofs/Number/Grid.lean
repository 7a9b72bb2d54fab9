import Criteria.Number.Magnitude
import Mathlib.Order.Monotone.Basic

/-!
# The grid of magnitudes

The worth of the places of the binary64 format increases strictly, and a value on the grid is
rounded to its own place.

## Main results

* `Criteria.Magnitude.strictMono_gridUnits` — a later place is worth more.
* `Criteria.Magnitude.gridRank_gridUnits` — the last place worth at most what a place is worth
  is that place.
* `Criteria.Magnitude.nearest_of_exact` — a quotient that is worth a finite magnitude exactly is
  rounded to it.

## Implementation notes

Places from the second binade on are written `(shift + 1) * binade + fraction`, which
`exists_place` supplies; the division and the remainder in `gridUnits` then disappear.
-/

set_option autoImplicit false
set_option relaxedAutoImplicit false

namespace Criteria.Magnitude

/-! ## Places and their worth -/

/-- A binade has places. -/
theorem binade_pos : 0 < binade := by decide

/-- A binade has as many places as the significand has values. -/
theorem binade_eq_two_pow : binade = Nat.pow 2 52 := by decide

/-- The worth of a place behind the first binade. -/
theorem gridUnits_place {fraction : Nat} (shift : Nat) (h : fraction < binade) :
    gridUnits ((shift + 1) * binade + fraction) = (binade + fraction) * Nat.pow 2 shift := by
  have hpos := binade_pos
  have hge : ¬ (shift + 1) * binade + fraction < binade := by
    rw [Nat.add_mul]
    omega
  have hdiv : ((shift + 1) * binade + fraction) / binade = shift + 1 := by
    rw [Nat.mul_comm, Nat.mul_add_div hpos, Nat.div_eq_of_lt h, Nat.add_zero]
  have hmod : ((shift + 1) * binade + fraction) % binade = fraction := by
    rw [Nat.mul_comm, Nat.mul_add_mod, Nat.mod_eq_of_lt h]
  unfold gridUnits
  rw [if_neg hge, hdiv, hmod, Nat.add_sub_cancel]

/-- Every place lies in the first binade or some binades behind it. -/
theorem exists_place (rank : Nat) :
    rank < binade ∨ ∃ shift fraction, fraction < binade ∧
      rank = (shift + 1) * binade + fraction := by
  rcases Nat.lt_or_ge rank binade with h | h
  · exact .inl h
  · refine .inr ⟨rank / binade - 1, rank % binade, Nat.mod_lt _ binade_pos, ?_⟩
    have hpos : 0 < rank / binade := Nat.div_pos h binade_pos
    have hsplit := Nat.div_add_mod rank binade
    rw [Nat.sub_add_cancel hpos, Nat.mul_comm]
    exact hsplit.symm

/-- The next place is worth more.

**Proof sketch.** In the first binade a place is worth its number. Behind it the next place has
the next fraction and the same shift, unless the fraction was the last one; then it starts a
binade of twice the shift, whose first value exceeds the last one of the binade before. -/
theorem gridUnits_lt_succ (rank : Nat) : gridUnits rank < gridUnits (rank + 1) := by
  have hbinade := binade_pos
  rcases exists_place rank with h | ⟨shift, fraction, hfraction, rfl⟩
  · rw [gridUnits_of_lt (by omega), gridUnits_of_lt (by omega)]
    omega
  · have hpow : 0 < Nat.pow 2 shift := Nat.two_pow_pos shift
    rw [gridUnits_place shift hfraction]
    rcases Nat.lt_or_ge (fraction + 1) binade with h | h
    · rw [Nat.add_assoc, gridUnits_place shift h]
      exact Nat.mul_lt_mul_of_pos_right (by omega) hpow
    · have hnext : (shift + 1) * binade + fraction + 1 = (shift + 1 + 1) * binade + 0 := by
        rw [Nat.add_mul (shift + 1)]
        omega
      have hdouble : Nat.pow 2 (shift + 1) = 2 * Nat.pow 2 shift := Nat.pow_succ'
      rw [hnext, gridUnits_place (shift + 1) hbinade, hdouble, ← Nat.mul_assoc]
      exact Nat.mul_lt_mul_of_pos_right (by omega) hpow

/-- A later place is worth more. -/
theorem strictMono_gridUnits : StrictMono gridUnits := strictMono_nat_of_lt_succ gridUnits_lt_succ

/-- The last place worth at most what a place is worth is that place. -/
theorem gridRank_gridUnits (rank : Nat) : gridRank (gridUnits rank) = rank := by
  unfold gridRank
  have hbinade : 2 ^ 52 = binade := binade_eq_two_pow.symm
  rcases exists_place rank with h | ⟨shift, fraction, hfraction, rfl⟩
  · have hlog : rank.log2 - 52 = 0 := by
      rcases Nat.eq_zero_or_pos rank with rfl | hpos
      · rfl
      · rw [← hbinade] at h
        have hlt := (Nat.log2_lt (by omega)).2 h
        omega
    rw [gridUnits_of_lt (by omega), hlog]
    simp
  · have hlower : 2 ^ (52 + shift) ≤ (binade + fraction) * 2 ^ shift := by
      rw [Nat.pow_add, hbinade]
      exact Nat.mul_le_mul_right _ (Nat.le_add_right _ _)
    have hupper : (binade + fraction) * 2 ^ shift < 2 ^ (52 + shift + 1) := by
      have hdouble : 2 ^ (52 + shift + 1) = 2 * binade * 2 ^ shift := by
        rw [← hbinade, Nat.pow_succ, Nat.pow_add]
        ac_rfl
      rw [hdouble]
      exact Nat.mul_lt_mul_of_pos_right (by omega) (Nat.two_pow_pos shift)
    have hpos : (binade + fraction) * 2 ^ shift ≠ 0 := by
      have := Nat.two_pow_pos (52 + shift)
      omega
    have hlog : ((binade + fraction) * 2 ^ shift).log2 = 52 + shift :=
      (Nat.log2_eq_iff hpos).2 ⟨hlower, hupper⟩
    have hlogPlace : ((binade + fraction) * Nat.pow 2 shift).log2 = 52 + shift := hlog
    have hcancel : (binade + fraction) * Nat.pow 2 shift / Nat.pow 2 shift = binade + fraction :=
      Nat.mul_div_cancel _ (Nat.two_pow_pos shift)
    rw [gridUnits_place shift hfraction, hlogPlace, Nat.add_sub_cancel_left]
    dsimp only
    rw [hcancel, Nat.add_mul, Nat.one_mul, Nat.add_assoc]

/-! ## Rounding on the grid -/

/-- A power of ten is not zero. -/
theorem pow_ten_pos (k : Nat) : 0 < Nat.pow 10 k := Nat.pow_pos (by decide)

/-- A value on the grid is not moved by rounding. -/
theorem roundFrom_of_exact {rank num den : Nat} (hden : 0 < den)
    (h : num * unitsPerOne = gridUnits rank * den) : roundFrom rank num den = rank := by
  have hlt : 2 * (num * unitsPerOne) < (gridUnits rank + gridUnits (rank + 1)) * den := by
    have hnext := Nat.mul_lt_mul_of_pos_right (gridUnits_lt_succ rank) hden
    rw [h, Nat.add_mul]
    omega
  unfold roundFrom
  dsimp only
  rw [if_pos hlt]

/-- **Exact values are kept.** A quotient that is worth a finite magnitude is rounded to it. -/
theorem nearest_of_exact {m : Magnitude} {num den : Nat} (hm : m.isFinite = true)
    (hden : 0 < den) (h : num * unitsPerOne = m.units * den) : nearest num den = m := by
  have hrank : m.rank < topRank := of_decide_eq_true hm
  have hbelow : gridRank (num * unitsPerOne / den) = m.rank := by
    rw [h, Nat.mul_div_cancel _ hden]
    exact gridRank_gridUnits m.rank
  unfold nearest
  rw [hbelow]
  dsimp only
  rw [if_neg (Nat.not_le.2 hrank), roundFrom_of_exact hden h, ofRank, mk.injEq]
  exact Nat.min_eq_left m.rank_le

/-- Only the first place is worth nothing. -/
theorem units_pos {m : Magnitude} (hm : m.rank ≠ 0) : 0 < m.units := by
  have hlt : gridUnits 0 < gridUnits m.rank := strictMono_gridUnits (Nat.pos_of_ne_zero hm)
  exact Nat.lt_of_le_of_lt (Nat.zero_le _) hlt

end Criteria.Magnitude

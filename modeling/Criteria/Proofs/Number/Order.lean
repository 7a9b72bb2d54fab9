import Criteria.Proofs.Number.Scaling

/-!
# Numbers in order

Numbers are compared as what they are worth: a number is below another if it is worth less, and
equal to it if it is worth the same.

## Main definitions

* `Criteria.Number.worth?` — what a number is worth.

## Main results

* `Criteria.Number.equals_iff`, `Criteria.Number.below_iff` — comparison by worth.
-/

set_option autoImplicit false
set_option relaxedAutoImplicit false

namespace Criteria.Number

open Magnitude

/-! ## The worth of a number -/

/-- What a number is worth, `none` for `nan`. Infinity is worth the power of two behind the last
finite number. -/
def worth? : Number → Option ℚ
  | .nan => none
  | .signed true m => some (-m.worth)
  | .signed false m => some m.worth

/-- The worth at a place of the number line. -/
def worthAt (place : Int) : ℚ :=
  (if place < 0 then -(gridUnits place.natAbs : ℚ) else gridUnits place.natAbs) / unitsPerOne

/-- A number is worth what its place is worth. -/
theorem worth?_eq (n : Number) : n.worth? = n.position?.map worthAt := by
  have hpositive : ∀ rank : Nat, worthAt rank = gridUnits rank / unitsPerOne := by
    intro rank
    rw [worthAt, if_neg (by omega), Int.natAbs_natCast]
  cases n with
  | nan => rfl
  | signed negative m =>
    cases negative with
    | false => exact congrArg some (hpositive m.rank).symm
    | true =>
      have hnegative : worthAt (-(m.rank : Int)) = -m.worth := by
        rcases Nat.eq_zero_or_pos m.rank with hzero | hpos
        · have hunits : (gridUnits 0 : ℚ) = 0 := Nat.cast_zero
          have hworth : m.worth = 0 := by
            rw [worth, units, hzero, hunits, zero_div]
          calc worthAt (-(m.rank : Int)) = worthAt (0 : Nat) := by rw [hzero]; rfl
            _ = -m.worth := by rw [hpositive, hunits, zero_div, hworth, neg_zero]
        · rw [worthAt, if_pos (by omega), Int.natAbs_neg, Int.natAbs_natCast, neg_div]
          rfl
      exact congrArg some hnegative.symm

/-- A later place of the number line is worth more. -/
theorem worthAt_lt {p q : Int} (h : p < q) : worthAt p < worthAt q := by
  have hgrid : ∀ {i j : Int}, i.natAbs < j.natAbs →
      (gridUnits i.natAbs : ℚ) < gridUnits j.natAbs :=
    fun h => Nat.cast_lt.mpr (strictMono_gridUnits h)
  have hnonneg : ∀ i : Int, (0 : ℚ) ≤ gridUnits i.natAbs := fun i => Nat.cast_nonneg _
  apply (div_lt_div_iff_of_pos_right cast_unitsPerOne_pos).mpr
  split_ifs with hp hq hq
  · exact neg_lt_neg (hgrid (by omega))
  · -- the place on the left is not zero, so it is worth something
    have hpos : (gridUnits (0 : Int).natAbs : ℚ) < gridUnits p.natAbs := hgrid (by omega)
    have hzero := hnonneg 0
    have hright := hnonneg q
    linarith
  · omega
  · exact hgrid (by omega)

/-- Places of the number line are ordered like their worth. -/
theorem worthAt_lt_iff {p q : Int} : worthAt p < worthAt q ↔ p < q :=
  StrictMono.lt_iff_lt fun _ _ => worthAt_lt

/-- Places of the number line that are worth the same are the same. -/
theorem worthAt_inj {p q : Int} : worthAt p = worthAt q ↔ p = q :=
  (StrictMono.injective fun _ _ => worthAt_lt).eq_iff

/-! ## Comparison -/

variable {a b : Number}

/-- **Numbers are equal if they are worth the same.** -/
theorem equals_iff : a.equals b = true ↔ ∃ p, a.worth? = some p ∧ b.worth? = some p := by
  rw [worth?_eq, worth?_eq, equals]
  cases a.position? with
  | none => simp
  | some p =>
    cases b.position? with
    | none => simp
    | some q =>
      simp only [Option.map_some, Option.some.injEq, exists_eq_left', beq_iff_eq, worthAt_inj]
      exact eq_comm

/-- **A number is below another if it is worth less.** -/
theorem below_iff :
    a.below b = true ↔ ∃ p q, a.worth? = some p ∧ b.worth? = some q ∧ p < q := by
  rw [worth?_eq, worth?_eq, below]
  cases a.position? with
  | none => simp
  | some p =>
    cases b.position? with
    | none => simp
    | some q =>
      simp only [Option.map_some, Option.some.injEq, exists_and_left, exists_eq_left',
        decide_eq_true_eq, worthAt_lt_iff]

end Criteria.Number

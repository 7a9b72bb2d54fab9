/-!
# Tallies

How often each of some things has happened.

## Main definitions

* `Criteria.Tally` — the type.
* `Criteria.Tally.count` — how often one thing has happened, the view that adding is described by.
* `Criteria.Tally.add` — it has happened once more.
* `Criteria.Tally.total` — how often anything has happened.

## Main results

* `Criteria.Tally.count_add`, `Criteria.Tally.total_add` — adding through the views.
-/

set_option autoImplicit false
set_option relaxedAutoImplicit false

namespace Criteria

variable {κ : Type}

/-- How often each thing has happened; what has not is not listed. -/
structure Tally (κ : Type) where
  /-- The things that have happened, each with its count. -/
  entries : List (κ × Nat)

namespace Tally

/-- Nothing has happened. -/
def empty : Tally κ := ⟨[]⟩

/-- The sum of the counts of some entries. -/
def totalIn : List (κ × Nat) → Nat
  | [] => 0
  | entry :: rest => entry.2 + totalIn rest

/-- How often anything has happened. -/
def total (tally : Tally κ) : Nat := totalIn tally.entries

section DecidableKeys

variable [DecidableEq κ]

/-- The count of the first entry for a thing. -/
def countIn (key : κ) : List (κ × Nat) → Nat
  | [] => 0
  | entry :: rest => if entry.1 = key then entry.2 else countIn key rest

/-- How often a thing has happened. -/
def count (tally : Tally κ) (key : κ) : Nat := countIn key tally.entries

/-- Adds one to the count of a thing, or an entry at the end. -/
def addIn (key : κ) : List (κ × Nat) → List (κ × Nat)
  | [] => [(key, 1)]
  | entry :: rest =>
    if entry.1 = key then (entry.1, entry.2 + 1) :: rest else entry :: addIn key rest

/-- A thing has happened once more. -/
def add (tally : Tally κ) (key : κ) : Tally κ := ⟨addIn key tally.entries⟩

/-- Adding counts the thing itself once more and nothing else. -/
theorem count_add (tally : Tally κ) (key other : κ) :
    (tally.add key).count other = tally.count other + if key = other then 1 else 0 := by
  obtain ⟨entries⟩ := tally
  simp only [count, add]
  induction entries with
  | nil => by_cases h : key = other <;> simp [addIn, countIn, h]
  | cons entry rest ih =>
    unfold addIn
    by_cases hk : entry.1 = key
    · by_cases h : key = other
      · simp [countIn, hk, h]
      · simp [countIn, hk, h]
    · rw [if_neg hk, countIn, countIn, ih]
      by_cases h : entry.1 = other
      · have hn : ¬key = other := fun e => hk (h.trans e.symm)
        simp [h, hn]
      · simp [h]

/-- Adding makes the total one larger. -/
theorem total_add (tally : Tally κ) (key : κ) : (tally.add key).total = tally.total + 1 := by
  obtain ⟨entries⟩ := tally
  simp only [total, add]
  induction entries with
  | nil => rfl
  | cons entry rest ih =>
    unfold addIn
    split
    · simp only [totalIn]
      omega
    · simp only [totalIn, ih]
      omega

/-- Before anything has happened, every count is zero. -/
@[simp] theorem count_empty (key : κ) : (empty : Tally κ).count key = 0 := rfl

end DecidableKeys

/-- Before anything has happened, the total is zero. -/
@[simp] theorem total_empty : (empty : Tally κ).total = 0 := rfl

end Tally

end Criteria

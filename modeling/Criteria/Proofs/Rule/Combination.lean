import Criteria.Combination
import Criteria.Proofs.Outline.Decode
import Criteria.Proofs.Rule.Brackets
import Criteria.Proofs.Rule.Chain

/-!
# Combinations of valid rules

Joining adds no conditions, and the brackets of a combination are counted before it is handed out,
so that what valid rules are combined to is valid. Rules that are joined later can only add to the
brackets, so that it does not matter whether rules are combined all at once or some of them first.

## Main definitions

* `Criteria.Rule.tower` — rules of which each level but the last needs brackets.

## Main results

* `Criteria.Rule.combine_eq_ok_iff`, `Criteria.Rule.combine_eq_error_iff` — what combining comes
  to, with both ways in which it fails.
* `Criteria.Rule.clean_joinAll` — no condition of a joined tree is new.
* `Criteria.Rule.issues_of_combine` — a combination of valid rules is valid.
* `Criteria.Rule.combine_append_of_ok`, `Criteria.Rule.combine_append_of_error` — combining in two
  stages.
* `Criteria.Rule.combine_refuses_unreadable` — valid rules are combined exactly if the text of the
  joined rule can be read.
-/

set_option autoImplicit false
set_option relaxedAutoImplicit false

namespace Criteria.Rule

variable {op : Connective}

/-- Joined rules are clean if all of them are. -/
theorem clean_joinAll {first : Rule} {others : List Rule} (hfirst : first.Clean)
    (hothers : ∀ rule ∈ others, rule.Clean) : (joinAll op first others).Clean := by
  unfold joinAll
  induction others generalizing first with
  | nil => exact hfirst
  | cons other others ih =>
    obtain ⟨hother, hothers⟩ := List.forall_mem_cons.mp hothers
    exact ih (clean_join_iff.mpr ⟨hfirst, hother⟩) hothers

/-- Rules are combined to their joined tree, if there are any and its text nests no deeper than it
may. -/
theorem combine_eq_ok_iff {rules : List Rule} {combined : Rule} :
    combine op rules = .ok combined ↔ ∃ first others, rules = first :: others ∧
      combined = joinAll op first others ∧ combined.bracketDepth ≤ maxNesting := by
  cases rules with
  | nil => simp [combine]
  | cons first others =>
    unfold combine
    dsimp only
    split
    case isTrue hdeep =>
      have hno : ¬(joinAll op first others).bracketDepth ≤ maxNesting := Nat.not_le.mpr hdeep
      simp only [List.cons.injEq, reduceCtorEq, false_iff]
      rintro ⟨_, _, ⟨rfl, rfl⟩, rfl, hle⟩
      exact hno hle
    case isFalse hflat =>
      have hle : (joinAll op first others).bracketDepth ≤ maxNesting := Nat.le_of_not_lt hflat
      constructor
      · intro h
        cases h
        exact ⟨first, others, rfl, rfl, hle⟩
      · rintro ⟨_, _, ⟨rfl, rfl⟩, rfl, -⟩
        rfl

/-- Combining fails for lack of rules, or because the text of the joined tree nests too deep. -/
theorem combine_eq_error_iff {rules : List Rule} :
    (∃ fault, combine op rules = .error fault) ↔ rules = [] ∨
      ∃ first others, rules = first :: others ∧
        maxNesting < (joinAll op first others).bracketDepth := by
  cases hcombine : combine op rules with
  | error fault =>
    refine iff_of_true ⟨fault, rfl⟩ ?_
    cases rules with
    | nil => exact .inl rfl
    | cons first others =>
      refine .inr ⟨first, others, rfl, Nat.lt_of_not_le fun hle => ?_⟩
      rw [combine_eq_ok_iff.mpr ⟨first, others, rfl, rfl, hle⟩] at hcombine
      cases hcombine
  | ok combined =>
    obtain ⟨first, others, rfl, rfl, hle⟩ := combine_eq_ok_iff.mp hcombine
    simp only [reduceCtorEq, exists_false, false_or, List.cons.injEq, false_iff]
    rintro ⟨_, _, ⟨rfl, rfl⟩, hdeep⟩
    exact absurd hle (Nat.not_le.mpr hdeep)

/-- Where combining fails, the rules are of no use as an argument. -/
theorem exists_reason_of_combine {rules : List Rule} {fault : Fault}
    (h : combine op rules = .error fault) : ∃ reason, fault = .invalidArgument reason := by
  unfold combine at h
  split at h
  · exact ⟨_, (Except.error.inj h).symm⟩
  · dsimp only at h
    split at h
    · exact ⟨_, (Except.error.inj h).symm⟩
    · cases h

/-- **A combination of valid rules is valid.** -/
theorem issues_of_combine {rules : List Rule} {combined : Rule}
    (h : combine op rules = .ok combined) (hrules : ∀ rule ∈ rules, rule.issues = []) :
    combined.issues = [] := by
  have hclean : ∀ rule ∈ rules, rule.Clean := fun rule hmem =>
    (issues_eq_nil_iff.mp (hrules rule hmem)).1
  obtain ⟨first, others, rfl, rfl, hdepth⟩ := combine_eq_ok_iff.mp h
  obtain ⟨hfirst, hothers⟩ := List.forall_mem_cons.mp hclean
  exact issues_eq_nil_iff.mpr ⟨clean_joinAll hfirst hothers, hdepth⟩

/-! ## Two stages -/

/-- Rules that follow are joined to what has been joined before. -/
theorem joinAll_append (op : Connective) (first : Rule) (others rest : List Rule) :
    joinAll op first (others ++ rest) = joinAll op (joinAll op first others) rest :=
  List.foldl_append

/-- Joining more rules to a rule takes no brackets away from it. -/
theorem bracketDepth_le_joinAll (op : Connective) (first : Rule) (others : List Rule) :
    first.bracketDepth ≤ (joinAll op first others).bracketDepth := by
  unfold joinAll
  induction others generalizing first with
  | nil => exact Nat.le_refl _
  | cons other others ih =>
    have hjoin : first.bracketDepth ≤ (join op first other).bracketDepth := by
      rw [bracketDepth_join]
      exact (Nat.le_add_right _ _).trans (Nat.le_max_left _ _)
    exact hjoin.trans (ih (.join op first other))

/-- **Combining in two stages** gives what combining at once gives, if the first stage succeeds. -/
theorem combine_append_of_ok {front : List Rule} {combined : Rule}
    (h : combine op front = .ok combined) (rest : List Rule) :
    combine op (combined :: rest) = combine op (front ++ rest) := by
  obtain ⟨first, others, rfl, rfl, -⟩ := combine_eq_ok_iff.mp h
  unfold combine
  rw [List.cons_append]
  dsimp only
  rw [joinAll_append]

/-- If the first stage fails, so does combining at once. -/
theorem combine_append_of_error {front : List Rule} (hfront : front ≠ []) {fault : Fault}
    (h : combine op front = .error fault) (rest : List Rule) :
    ∃ fault', combine op (front ++ rest) = .error fault' := by
  rcases combine_eq_error_iff.mp ⟨fault, h⟩ with hnil | ⟨first, others, rfl, hdeep⟩
  · exact absurd hnil hfront
  · refine combine_eq_error_iff.mpr (.inr ⟨first, others ++ rest, rfl, hdeep.trans_le ?_⟩)
    rw [joinAll_append]
    exact bracketDepth_le_joinAll op _ rest

/-! ## What can be combined -/

/-- **Valid rules are combined exactly if the text of the joined rule can be read.** There must be a
rule at least, and what they are combined to is valid, and is read back from its text and from its
outline; it makes no difference whether some of the rules in front are combined before.

**Proof sketch.** Joined rules are clean if the rules are. So the text of the joined rule is read if
it nests no deeper than it may (`ofText_text`), and is not if it nests deeper
(`not_reads_of_deep`). -/
theorem combine_refuses_unreadable (op : Connective) {rules : List Rule}
    (hvalid : ∀ rule ∈ rules, rule.issues = []) :
    ((∃ fault, combine op rules = .error fault) ↔ rules = [] ∨
      ∃ first others fault, rules = first :: others ∧
        ofText (joinAll op first others).text = .error fault) ∧
    (∀ fault, combine op rules = .error fault → ∃ reason, fault = .invalidArgument reason) ∧
    (∀ combined, combine op rules = .ok combined →
      (∃ first others, rules = first :: others ∧ combined = joinAll op first others) ∧
      combined.issues = [] ∧ ofText combined.text = .ok combined ∧
      (Outline.ofRule combined).toRule = .ok combined) ∧
    ∀ front rest, rules = front ++ rest → front ≠ [] →
      (∀ combined, combine op front = .ok combined →
        combine op (combined :: rest) = combine op rules) ∧
      ∀ fault, combine op front = .error fault → ∃ fault', combine op rules = .error fault' := by
  have hclean : ∀ rule ∈ rules, rule.Clean := fun rule hmem =>
    (issues_eq_nil_iff.mp (hvalid rule hmem)).1
  refine ⟨?_, fun _ => exists_reason_of_combine, ?_, ?_⟩
  · rw [combine_eq_error_iff]
    refine or_congr_right (exists_congr fun first => exists_congr fun others => ?_)
    constructor
    · rintro ⟨rfl, hdeep⟩
      obtain ⟨hfirst, hothers⟩ := List.forall_mem_cons.mp hclean
      cases hread : ofText (joinAll op first others).text with
      | error fault => exact ⟨fault, rfl, rfl⟩
      | ok rule => exact absurd hread (not_reads_of_deep (clean_joinAll hfirst hothers) hdeep)
    · rintro ⟨fault, rfl, hread⟩
      obtain ⟨hfirst, hothers⟩ := List.forall_mem_cons.mp hclean
      refine ⟨rfl, Nat.lt_of_not_le fun hle => ?_⟩
      rw [ofText_text (issues_eq_nil_iff.mpr ⟨clean_joinAll hfirst hothers, hle⟩)] at hread
      cases hread
  · intro combined hcombine
    have hissues := issues_of_combine hcombine hvalid
    obtain ⟨first, others, hrules, hjoined, -⟩ := combine_eq_ok_iff.mp hcombine
    exact ⟨⟨first, others, hrules, hjoined⟩, hissues, ofText_text hissues,
      (Outline.toRule_ofRule hissues).2⟩
  · rintro front rest rfl hfront
    exact ⟨fun _ hcombine => combine_append_of_ok hcombine rest,
      fun _ hcombine => combine_append_of_error hfront hcombine rest⟩

/-! ## Towers -/

/-- Conditions joined from the right: each level but the last is bracketed in the one around it. -/
def tower : Nat → Rule
  | 0 => .condition link
  | n + 1 => .join .conj (.condition link) (tower n)

/-- Towers are clean. -/
theorem clean_tower (n : Nat) : (tower n).Clean := by
  induction n with
  | zero => exact clean_condition_iff.mpr rfl
  | succ n ih => exact clean_join_iff.mpr ⟨clean_condition_iff.mpr rfl, ih⟩

/-- The brackets of a tower. -/
theorem bracketDepth_tower (n : Nat) : (tower (n + 1)).bracketDepth = n := by
  induction n with
  | zero => rfl
  | succ n ih =>
    have hright : (tower (n + 1)).needsBrackets .conj .right = true := rfl
    rw [tower, bracketDepth, ih, hright]
    exact Nat.zero_max _

/-- A tower that nests as deep as it may is valid, and is not combined with a condition in front of
it; the text of the two could not be read. -/
theorem combine_refuses_tower :
    (∀ rule ∈ [.condition link, tower (maxNesting + 1)], rule.issues = []) ∧
      (∃ fault, combine .conj [.condition link, tower (maxNesting + 1)] = .error fault) ∧
      ∃ fault, ofText (tower (maxNesting + 2)).text = .error fault := by
  have hvalid : ∀ rule ∈ [.condition link, tower (maxNesting + 1)], rule.issues = [] := by
    refine List.forall_mem_cons.mpr ⟨issues_chain 0, List.forall_mem_singleton.mpr ?_⟩
    exact issues_eq_nil_iff.mpr ⟨clean_tower _, (bracketDepth_tower maxNesting).le⟩
  have hdeep : maxNesting < (tower (maxNesting + 2)).bracketDepth := by
    rw [bracketDepth_tower]
    exact Nat.lt_succ_self _
  have herror : ∃ fault, combine .conj [.condition link, tower (maxNesting + 1)] = .error fault :=
    combine_eq_error_iff.mpr (.inr ⟨_, _, rfl, hdeep⟩)
  refine ⟨hvalid, herror, ?_⟩
  rcases (combine_refuses_unreadable .conj hvalid).1.mp herror with
    hnil | ⟨_, _, fault, ⟨rfl, rfl⟩, hread⟩
  · exact nomatch hnil
  · exact ⟨fault, hread⟩

end Criteria.Rule

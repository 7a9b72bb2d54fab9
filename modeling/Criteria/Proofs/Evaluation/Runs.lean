import Criteria.Evaluation.Trace
import Criteria.Proofs.Evaluation.Grouping
import Criteria.Proofs.Rule.Address

/-!
# Runs

A traced evaluation visits a part of the rule: the left side of a node, and its right side if the
left side leaves the node undecided. Its hits are the visited conditions that hold, its visits are
those of the visited nodes, each behind those below it, and the hits alone lead to the same result.

## Main definitions

* `Criteria.Rule.placed` — the conditions of a rule with their addresses.
* `Criteria.Rule.isVisited` — whether the node at an address is visited.
* `Criteria.Rule.evaluateBy` — evaluation by an outcome for each condition.
* `Criteria.Rule.Runs` — the runs of a rule, as a relation.

## Main results

* `Criteria.Rule.evaluate_eq_evaluateBy` — evaluation is evaluation by the outcomes of all
  conditions.
* `Criteria.Rule.runs_of_runAt` — what traced evaluation finds is a run.
* `Criteria.Rule.Runs.hits_eq`, `Criteria.Rule.Runs.map_path_visits` — what a run lists.
* `Criteria.Rule.Runs.evaluateBy_eq` — the hits of a run lead to its result.
-/

set_option autoImplicit false
set_option relaxedAutoImplicit false

namespace Criteria

variable {record : Record} {rule : Rule} {path : Path} {run : Run}

/-! ## Conditions in their places -/

namespace Hit

/-- A hit in a subtree, seen from above. -/
def behind (path : Path) (hit : Hit) : Hit := { hit with path := path ++ hit.path }

/-- Whether the condition of a hit holds of a record. -/
def holds (record : Record) (hit : Hit) : Bool :=
  decide (hit.condition.evaluate (record.get? hit.condition.name) = .ok true)

theorem behind_nil : behind [] = id := rfl

theorem behind_behind (path : Path) (side : Side) (hit : Hit) :
    (hit.behind [side]).behind path = hit.behind (path ++ [side]) := by
  simp [behind]

end Hit

namespace Rule

/-- The conditions of a rule from left to right, with their addresses. -/
def placed : Rule → List Hit
  | .condition c => [⟨[], c⟩]
  | .join _ left right =>
    left.placed.map (Hit.behind [.left]) ++ right.placed.map (Hit.behind [.right])

/-- Each condition stands at its address. -/
theorem node?_of_mem_placed {hit : Hit} (h : hit ∈ rule.placed) :
    rule.node? hit.path = some (.condition hit.condition) := by
  induction rule generalizing hit with
  | condition c =>
    obtain rfl := List.mem_singleton.mp h
    rfl
  | join op left right ihl ihr =>
    rcases List.mem_append.mp h with hleft | hright
    · obtain ⟨inner, hinner, rfl⟩ := List.mem_map.mp hleft
      exact ihl hinner
    · obtain ⟨inner, hinner, rfl⟩ := List.mem_map.mp hright
      exact ihr hinner

/-- The addresses of the conditions are among those of the nodes, in the same order. -/
theorem sublist_nodes (rule : Rule) : (rule.placed.map Hit.path).Sublist rule.nodes := by
  induction rule with
  | condition c => exact List.Sublist.refl [[]]
  | join op left right ihl ihr =>
    have hpaths : ∀ (side : Side) (hits : List Hit),
        (hits.map (Hit.behind [side])).map Hit.path = (hits.map Hit.path).map (side :: ·) := by
      simp [Function.comp_def, Hit.behind]
    rw [placed, nodes, List.map_append, hpaths, hpaths]
    exact (ihl.map _).append ((ihr.map _).trans (List.sublist_append_left _ _))

/-! ## Visited nodes -/

/-- Whether the node at an address is visited. The right side is if the left side leaves the node
undecided. -/
def isVisited (record : Record) : Rule → Path → Bool
  | _, [] => true
  | .condition _, _ :: _ => false
  | .join _ left _, .left :: path => left.isVisited record path
  | .join op left right, .right :: path =>
    decide (left.evaluate record = .ok op.neutral) && right.isVisited record path

/-- What is visited is a node. -/
theorem mem_nodes_of_isVisited (h : rule.isVisited record path = true) : path ∈ rule.nodes := by
  rw [mem_nodes_iff]
  induction rule generalizing path with
  | condition c =>
    cases path with
    | nil => rfl
    | cons side path => simp [isVisited] at h
  | join op left right ihl ihr =>
    cases path with
    | nil => rfl
    | cons side path =>
      cases side with
      | left => exact ihl h
      | right => exact ihr (Bool.and_eq_true_iff.mp h).2

/-- Below a visited node, what is visited is what its subtree visits. -/
theorem isVisited_append {sub : Rule} (hnode : rule.node? path = some sub)
    (h : rule.isVisited record path = true) (rest : Path) :
    rule.isVisited record (path ++ rest) = sub.isVisited record rest := by
  induction rule generalizing path with
  | condition c =>
    cases path with
    | nil => rw [List.nil_append, Option.some.inj hnode]
    | cons side path => simp [node?] at hnode
  | join op left right ihl ihr =>
    cases path with
    | nil => rw [List.nil_append, Option.some.inj hnode]
    | cons side path =>
      cases side with
      | left => exact ihl hnode h
      | right =>
        obtain ⟨hleft, hright⟩ := Bool.and_eq_true_iff.mp h
        rw [List.cons_append, isVisited, hleft, Bool.true_and]
        exact ihr hnode hright

/-- Whether a condition with its address is visited and holds. -/
def isHit (record : Record) (rule : Rule) (hit : Hit) : Bool :=
  rule.isVisited record hit.path && hit.holds record

section join

variable {op : Connective} {left right : Rule}

/-- If the left side settles a node, the nodes below it that are visited are those of that side. -/
theorem filter_nodes_settled (h : left.evaluate record ≠ .ok op.neutral) :
    (join op left right).nodes.filter ((join op left right).isVisited record) =
      (left.nodes.filter (left.isVisited record)).map (.left :: ·) ++ [[]] := by
  have hleft : (join op left right).isVisited record ∘ (Side.left :: ·) = left.isVisited record :=
    rfl
  have hright : (join op left right).isVisited record ∘ (Side.right :: ·) = fun _ => false := by
    funext rest
    simp [isVisited, h]
  rw [nodes, List.filter_append, List.filter_append, List.filter_map, List.filter_map, hleft,
    hright]
  simp [isVisited]

/-- If the left side leaves a node undecided, the visited nodes of both sides are below it. -/
theorem filter_nodes_decided (h : left.evaluate record = .ok op.neutral) :
    (join op left right).nodes.filter ((join op left right).isVisited record) =
      (left.nodes.filter (left.isVisited record)).map (.left :: ·) ++
        ((right.nodes.filter (right.isVisited record)).map (.right :: ·) ++ [[]]) := by
  have hleft : (join op left right).isVisited record ∘ (Side.left :: ·) = left.isVisited record :=
    rfl
  have hright : (join op left right).isVisited record ∘ (Side.right :: ·) =
      right.isVisited record := by
    funext rest
    simp [isVisited, h]
  rw [nodes, List.filter_append, List.filter_append, List.filter_map, List.filter_map, hleft,
    hright]
  simp [isVisited]

/-- If the left side settles a node, the hits below it are those of that side. -/
theorem filter_placed_settled (h : left.evaluate record ≠ .ok op.neutral) :
    (join op left right).placed.filter ((join op left right).isHit record) =
      (left.placed.filter (left.isHit record)).map (Hit.behind [.left]) := by
  have hleft : (join op left right).isHit record ∘ Hit.behind [.left] = left.isHit record := rfl
  have hright : (join op left right).isHit record ∘ Hit.behind [.right] = fun _ => false := by
    funext hit
    simp [isHit, Hit.behind, isVisited, h]
  rw [placed, List.filter_append, List.filter_map, List.filter_map, hleft, hright]
  simp

/-- If the left side leaves a node undecided, the hits of both sides are below it. -/
theorem filter_placed_decided (h : left.evaluate record = .ok op.neutral) :
    (join op left right).placed.filter ((join op left right).isHit record) =
      (left.placed.filter (left.isHit record)).map (Hit.behind [.left]) ++
        (right.placed.filter (right.isHit record)).map (Hit.behind [.right]) := by
  have hleft : (join op left right).isHit record ∘ Hit.behind [.left] = left.isHit record := rfl
  have hright : (join op left right).isHit record ∘ Hit.behind [.right] = right.isHit record := by
    funext hit
    have hvisited : (join op left right).isVisited record (.right :: hit.path) =
        right.isVisited record hit.path := by
      simp [isVisited, h]
    exact congrArg (· && hit.holds record) hvisited
  rw [placed, List.filter_append, List.filter_map, List.filter_map, hleft, hright]

end join

/-! ## Evaluation by outcomes -/

/-- Evaluates the subtree at `path` by an outcome for each condition, told by its address. -/
def evaluateBy (outcome : Hit → Except Fault Bool) : Rule → Path → Except Fault Bool
  | .condition c, path => outcome ⟨path, c⟩
  | .join op left right, path =>
    match left.evaluateBy outcome (path ++ [.left]) with
    | .error fault => .error fault
    | .ok holds =>
      if op.settledBy holds then .ok holds else right.evaluateBy outcome (path ++ [.right])

/-- A rule is evaluated by the outcomes of its conditions. -/
theorem evaluate_eq_evaluateBy (record : Record) (rule : Rule) (path : Path) :
    rule.evaluate record = rule.evaluateBy
      (fun hit => hit.condition.evaluate (record.get? hit.condition.name)) path := by
  induction rule generalizing path with
  | condition c => rfl
  | join op left right ihl ihr =>
    cases hleft : left.evaluate record with
    | error fault => rw [evaluate, evaluateBy, ← ihl, hleft]
    | ok holds => rw [evaluate, evaluateBy, ← ihl, ← ihr, hleft]

/-! ## Runs -/

/-- The runs of a rule at an address: one case for a condition, and one each for a node that is
settled by its left side and one that is decided by its right side. -/
inductive Runs (record : Record) : Rule → Path → Run → Prop where
  /-- A condition is compared. -/
  | compared {c : Condition} {path : Path} {holds : Bool}
      (h : c.evaluate (record.get? c.name) = .ok holds) :
      Runs record (.condition c) path
        ⟨holds, if holds then [⟨path, c⟩] else [], [.compared path c holds]⟩
  /-- The left side settles the node. -/
  | settled {op : Connective} {left right : Rule} {path : Path} {l : Run}
      (hleft : Runs record left (path ++ [.left]) l) (h : l.holds ≠ op.neutral) :
      Runs record (.join op left right) path
        ⟨l.holds, l.hits, l.visits ++ [.settled path op l.holds]⟩
  /-- The right side decides the node. -/
  | decided {op : Connective} {left right : Rule} {path : Path} {l r : Run}
      (hleft : Runs record left (path ++ [.left]) l) (h : l.holds = op.neutral)
      (hright : Runs record right (path ++ [.right]) r) :
      Runs record (.join op left right) path
        ⟨r.holds, l.hits ++ r.hits, l.visits ++ (r.visits ++ [.decided path op r.holds])⟩

/-- **What traced evaluation finds is a run.** -/
theorem runs_of_runAt (h : rule.runAt true record path = .ok run) : Runs record rule path run := by
  induction rule generalizing path run with
  | condition c =>
    rw [runAt] at h
    cases hc : c.evaluate (record.get? c.name) with
    | error fault => simp [hc] at h
    | ok holds =>
      simp only [hc, Except.ok.injEq] at h
      subst h
      exact .compared hc
  | join op left right ihl ihr =>
    rw [runAt] at h
    cases hl : left.runAt true record (path ++ [.left]) with
    | error fault => simp [hl] at h
    | ok l =>
      simp only [hl, Connective.settledBy_eq, decide_eq_true_eq] at h
      by_cases hneutral : l.holds = op.neutral
      · rw [if_neg (not_not.mpr hneutral)] at h
        cases hr : right.runAt true record (path ++ [.right]) with
        | error fault => simp [hr] at h
        | ok r =>
          simp only [hr, Except.ok.injEq, if_true, List.append_assoc] at h
          subst h
          exact .decided (ihl hl) hneutral (ihr hr)
      · rw [if_pos hneutral] at h
        simp only [Except.ok.injEq, if_true] at h
        subst h
        exact .settled (ihl hl) hneutral

/-- Every run is found by traced evaluation. -/
theorem runAt_of_runs (h : Runs record rule path run) : rule.runAt true record path = .ok run := by
  induction h with
  | compared h => simp [runAt, h]
  | settled hleft h ihl => simp [runAt, ihl, Connective.settledBy_eq, h]
  | decided hleft h hright ihl ihr => simp [runAt, ihl, ihr, Connective.settledBy_eq, h]

namespace Runs

/-- A run has the result of the rule. -/
theorem evaluate_eq (h : Runs record rule path run) : rule.evaluate record = .ok run.holds := by
  induction h with
  | compared h => exact h
  | settled hleft h ihl => simp [evaluate, ihl, Connective.settledBy_eq, h]
  | decided hleft h hright ihl ihr => simp [evaluate, ihl, ihr, Connective.settledBy_eq, h]

/-- The left side of a node that is decided by its right side leaves it undecided. -/
theorem evaluate_of_neutral {op : Connective} (h : Runs record rule path run)
    (hneutral : run.holds = op.neutral) : rule.evaluate record = .ok op.neutral := by
  rw [h.evaluate_eq, hneutral]

/-- The left side of a node that it settles does not leave it undecided. -/
theorem evaluate_ne_of_ne {op : Connective} (h : Runs record rule path run)
    (hneutral : run.holds ≠ op.neutral) : rule.evaluate record ≠ .ok op.neutral := by
  rw [h.evaluate_eq]
  exact fun heq => hneutral (Except.ok.inj heq)

/-- **The hits of a run are the visited conditions that hold,** from left to right.

**Proof sketch.** Induction on the run. What is visited on the left side of a node is what that side
visits, and the same on the right side if that is evaluated; else nothing is visited there. -/
theorem hits_eq (h : Runs record rule path run) :
    run.hits = (rule.placed.filter (rule.isHit record)).map (Hit.behind path) := by
  induction h with
  | @compared c path holds h =>
    have hhit : (condition c).isHit record ⟨[], c⟩ = holds := by
      cases holds <;> simp [isHit, isVisited, Hit.holds, h]
    cases holds <;> simp [placed, hhit, Hit.behind]
  | settled hleft h ihl =>
    rw [filter_placed_settled (hleft.evaluate_ne_of_ne h), ihl, List.map_map]
    simp only [Function.comp_def, Hit.behind_behind]
  | decided hleft h hright ihl ihr =>
    rw [filter_placed_decided (hleft.evaluate_of_neutral h), ihl, ihr, List.map_append,
      List.map_map, List.map_map]
    simp only [Function.comp_def, Hit.behind_behind]

/-- **The visits of a run are those of the visited nodes,** each behind those below it. -/
theorem map_path_visits (h : Runs record rule path run) :
    run.visits.map Visit.path = (rule.nodes.filter (rule.isVisited record)).map (path ++ ·) := by
  induction h with
  | @compared c path holds h =>
    have hroot : (condition c).isVisited record [] = true := by
      simp [isVisited]
    simp [nodes, hroot, Visit.path]
  | settled hleft h ihl =>
    rw [filter_nodes_settled (hleft.evaluate_ne_of_ne h), List.map_append, ihl]
    simp [Visit.path]
  | decided hleft h hright ihl ihr =>
    rw [filter_nodes_decided (hleft.evaluate_of_neutral h), List.map_append, List.map_append, ihl,
      ihr]
    simp [Visit.path, Function.comp_def]

/-- A hit stands below the address of its run. -/
theorem path_prefix_of_mem_hits {hit : Hit} (h : Runs record rule path run)
    (hmem : hit ∈ run.hits) :
    path <+: hit.path := by
  rw [h.hits_eq] at hmem
  obtain ⟨inner, -, rfl⟩ := List.mem_map.mp hmem
  exact List.prefix_append path inner.path

/-- **The hits of a run lead to its result:** if in a subtree those conditions are marked that are
hits of its run, evaluation by the marks has the result of the run.

**Proof sketch.** Induction on the run. No hit on the right side stands on the left side, so on each
side those conditions are marked that are hits of the run of that side. A side that is not evaluated
does not matter: the left side has the same result by the marks and settles the node. -/
theorem evaluateBy_eq {marked : Hit → Bool} (h : Runs record rule path run)
    (hmarked : ∀ hit ∈ rule.placed,
      marked (hit.behind path) = decide (hit.behind path ∈ run.hits)) :
    rule.evaluateBy (fun hit => .ok (marked hit)) path = .ok run.holds := by
  induction h with
  | @compared c path holds h =>
    have hmark := hmarked ⟨[], c⟩ (List.mem_singleton_self _)
    rw [evaluateBy]
    cases holds <;> simpa [Hit.behind] using hmark
  | @settled op left right path l hleft h ihl =>
    have hl : left.evaluateBy (fun hit => .ok (marked hit)) (path ++ [.left]) = .ok l.holds := by
      apply ihl
      intro hit hmem
      rw [← Hit.behind_behind]
      exact hmarked _ (List.mem_append_left _ (List.mem_map_of_mem hmem))
    simp [evaluateBy, hl, Connective.settledBy_eq, h]
  | @decided op left right path l r hleft h hright ihl ihr =>
    have hl : left.evaluateBy (fun hit => .ok (marked hit)) (path ++ [.left]) = .ok l.holds := by
      apply ihl
      intro hit hmem
      have hmark := hmarked _ (List.mem_append_left _ (List.mem_map_of_mem hmem))
      have hnot : hit.behind (path ++ [.left]) ∉ r.hits := by
        intro hr
        have hprefix := hright.path_prefix_of_mem_hits hr
        simp [Hit.behind] at hprefix
      rw [Hit.behind_behind] at hmark
      simpa [hnot] using hmark
    have hr : right.evaluateBy (fun hit => .ok (marked hit)) (path ++ [.right]) = .ok r.holds := by
      apply ihr
      intro hit hmem
      have hmark := hmarked _ (List.mem_append_right _ (List.mem_map_of_mem hmem))
      have hnot : hit.behind (path ++ [.right]) ∉ l.hits := by
        intro hl
        have hprefix := hleft.path_prefix_of_mem_hits hl
        simp [Hit.behind] at hprefix
      rw [Hit.behind_behind] at hmark
      simpa [hnot] using hmark
    simp [evaluateBy, hl, hr, Connective.settledBy_eq, h]

/-- The last visit of a run is that of its root. -/
theorem exists_last (h : Runs record rule path run) :
    ∃ front last, run.visits = front ++ [last] ∧ last.path = path := by
  cases h with
  | compared h => exact ⟨[], _, rfl, rfl⟩
  | settled hleft h => exact ⟨_, _, rfl, rfl⟩
  | decided hleft h hright => exact ⟨_, _, (List.append_assoc _ _ _).symm, rfl⟩

end Runs

end Rule

end Criteria

import Criteria.Proofs.Outline.Defect
import Criteria.Proofs.Rule.Address
import Mathlib.Data.List.Nodup

/-!
# What is found in an outline

The issues of an outline are the defects of the nodes that its operators lead to, each with the
address of its node: all of them, each once, from left to right.

## Main definitions

* `Criteria.Outline.node?` — the node at an address, reached through operators.
* `Criteria.Finding` — a defect and an address, and `Criteria.Finding.place`, where it stands
  among others.
* `Criteria.Outline.findings` — the findings in an outline.

## Main results

* `Criteria.Outline.mem_findings_iff` — the findings are the defects of the reachable nodes.
* `Criteria.Outline.pairwise_findings` — they are listed in the order of their places.
* `Criteria.Outline.nodeIssues_eq_map` — the issues of nodes are the findings, written out.
* `Criteria.Outline.reports_every_defect` — what the issues of every outline are.
-/

set_option autoImplicit false
set_option relaxedAutoImplicit false

namespace Criteria

/-! ## Findings -/

/-- A defect of the node at an address. -/
structure Finding where
  /-- The address. -/
  path : Path
  /-- What is wrong there. -/
  defect : Defect
  deriving DecidableEq

/-- Where a side of a node comes, behind what the node is itself found to be. -/
def Side.rank : Side → Nat
  | .left => 2
  | .right => 3

/-- Where a defect of a node comes: children that should not be there first, then the value, then a
missing child, in the place of the child. -/
def Defect.rank : Defect → Nat
  | .unexpectedChildren => 0
  | .missingChild side => side.rank
  | _ => 1

namespace Finding

/-- The issue that a finding is reported as. -/
def issue (finding : Finding) : Issue := ⟨finding.path.text, finding.defect⟩

/-- A finding in the child on a side. -/
def under (side : Side) (finding : Finding) : Finding := ⟨side :: finding.path, finding.defect⟩

/-- Where a finding stands among others, places being compared lexicographically. -/
def place (finding : Finding) : List Nat :=
  finding.path.map Side.rank ++ [finding.defect.rank]

/-- Findings are reported as different issues. -/
theorem issue_injective : Function.Injective issue := by
  rintro ⟨path, defect⟩ ⟨path', defect'⟩ h
  obtain ⟨hpath, hdefect⟩ := Issue.mk.inj h
  obtain rfl : path = path' := Path.text_injective hpath
  obtain rfl : defect = defect' := hdefect
  rfl

/-- A finding in a child stands where the side of the child comes. -/
theorem place_under (side : Side) (finding : Finding) :
    (finding.under side).place = side.rank :: finding.place := rfl

end Finding

namespace Outline

/-- The node at an address, if operators lead to it. -/
def node? (outline : Outline) : Path → Option Outline
  | [] => some outline
  | side :: path =>
    if outline.type = operatorType then
      match outline.child? side with
      | some child => child.node? path
      | none => none
    else none

/-- `outline.Finds finding`: operators lead to a node at the address, and it has the defect. -/
def Finds (outline : Outline) (finding : Finding) : Prop :=
  ∃ node, outline.node? finding.path = some node ∧ node.HasDefect finding.defect

/-- The findings in an outline, a missing child in the place of the findings in the child. -/
def findings : Outline → List Finding
  | ⟨type, value, left, right⟩ =>
    if type = operatorType then
      (operatorDefects value).map (⟨[], ·⟩)
        ++ (match left with
          | some child => child.findings.map (Finding.under .left)
          | none => [⟨[], .missingChild .left⟩])
        ++ (match right with
          | some child => child.findings.map (Finding.under .right)
          | none => [⟨[], .missingChild .right⟩])
    else if type = operandType then
      (operandDefects value (left.isSome || right.isSome)).map (⟨[], ·⟩)
    else [⟨[], .unknownNodeType type⟩]
termination_by structural outline => outline

/-- The findings in the child on a side, or that it is missing. -/
def childFindings (side : Side) : Option Outline → List Finding
  | some child => child.findings.map (Finding.under side)
  | none => [⟨[], .missingChild side⟩]

variable {outline : Outline} {side : Side} {child? : Option Outline}

/-- The findings in an outline, node and children apart. -/
theorem findings_eq (outline : Outline) :
    outline.findings =
      if outline.type = operatorType then
        (operatorDefects outline.value).map (⟨[], ·⟩)
          ++ childFindings .left outline.left ++ childFindings .right outline.right
      else if outline.type = operandType then
        (operandDefects outline.value (outline.left.isSome || outline.right.isSome)).map (⟨[], ·⟩)
      else [⟨[], .unknownNodeType outline.type⟩] := by
  rcases outline with ⟨type, value, _ | left, _ | right⟩ <;> rfl

/-- Induction on outlines: what holds of an outline if it holds of its children holds of all. -/
@[elab_as_elim]
theorem childInduction {motive : Outline → Prop}
    (node : ∀ outline, (∀ side child, outline.child? side = some child → motive child) →
      motive outline) : ∀ outline, motive outline
  | ⟨type, value, left, right⟩ => by
    refine node _ fun side child hchild => ?_
    cases side with
    | left =>
      obtain rfl : left = some child := hchild
      exact childInduction node child
    | right =>
      obtain rfl : right = some child := hchild
      exact childInduction node child

/-! ## The findings are the defects -/

/-- A node of a child is a node of an operator. -/
theorem node?_cons_of_operator (htype : outline.type = operatorType) (side : Side) (path : Path) :
    outline.node? (side :: path) = (outline.child? side).bind (·.node? path) := by
  rw [node?, if_pos htype]
  cases outline.child? side <;> rfl

/-- No node but an operator leads to another. -/
theorem node?_cons_of_ne (htype : outline.type ≠ operatorType) (side : Side) (path : Path) :
    outline.node? (side :: path) = none := by
  rw [node?, if_neg htype]

variable {path : Path} {defect : Defect}

/-- What is found at a node itself are defects of the node. -/
theorem mem_map_here {defects : List Defect} :
    ⟨path, defect⟩ ∈ defects.map (Finding.mk []) ↔ path = [] ∧ defect ∈ defects := by
  simp only [List.mem_map, Finding.mk.injEq, exists_eq_right_right]
  exact ⟨fun h => ⟨h.2.symm, h.1⟩, fun h => ⟨h.2, h.1.symm⟩⟩

/-- What is found in an operator is found in its value or on one of its sides. -/
theorem mem_findings_operator (htype : outline.type = operatorType) :
    ⟨path, defect⟩ ∈ outline.findings ↔
      (path = [] ∧ defect ∈ operatorDefects outline.value) ∨
      ∃ side, ⟨path, defect⟩ ∈ childFindings side (outline.child? side) := by
  rw [findings_eq, if_pos htype, List.mem_append, List.mem_append, mem_map_here, or_assoc]
  refine or_congr_right ⟨fun h => h.elim (⟨.left, ·⟩) (⟨.right, ·⟩), ?_⟩
  rintro ⟨_ | _, h⟩
  · exact .inl h
  · exact .inr h

/-- What is found at a node about a side is that the child is missing. -/
theorem mem_childFindings_nil :
    ⟨[], defect⟩ ∈ childFindings side child? ↔ child? = none ∧ defect = .missingChild side := by
  cases child? <;> simp [childFindings, Finding.under]

/-- What is found further down on a side is found in the child. -/
theorem mem_childFindings_cons {side' : Side} :
    ⟨side' :: path, defect⟩ ∈ childFindings side child? ↔
      side' = side ∧ ∃ child, child? = some child ∧ ⟨path, defect⟩ ∈ child.findings := by
  cases child? with
  | none => simp [childFindings]
  | some child =>
    simp only [childFindings, List.mem_map, Finding.under, Finding.mk.injEq, List.cons.injEq,
      Option.some.injEq, exists_eq_left']
    constructor
    · rintro ⟨finding, hmem, ⟨hside, hpath⟩, hdefect⟩
      subst hpath hdefect
      exact ⟨hside.symm, hmem⟩
    · rintro ⟨rfl, hmem⟩
      exact ⟨_, hmem, ⟨rfl, rfl⟩, rfl⟩

/-- **The findings in an outline are the defects of the nodes that operators lead to.**

**Proof sketch.** Induction on the outline. What is found at the outline itself are its own defects,
by its type; what is found further down is found in the child on the first side of the address. -/
theorem mem_findings_iff (outline : Outline) (path : Path) (defect : Defect) :
    ⟨path, defect⟩ ∈ outline.findings ↔ outline.Finds ⟨path, defect⟩ := by
  unfold Finds
  dsimp only
  induction outline using childInduction generalizing path with
  | node outline ih =>
    by_cases hoperator : outline.type = operatorType
    · rw [mem_findings_operator hoperator]
      cases path with
      | nil => simp [mem_childFindings_nil, node?, hasDefect_operator hoperator]
      | cons side path =>
        simp only [reduceCtorEq, false_and, false_or, mem_childFindings_cons, exists_eq_left',
          node?_cons_of_operator hoperator, Option.bind_eq_some_iff]
        constructor
        · rintro ⟨child, hchild, hmem⟩
          obtain ⟨node, hnode, hdefect⟩ := (ih side child hchild path).1 hmem
          exact ⟨node, ⟨child, hchild, hnode⟩, hdefect⟩
        · rintro ⟨node, ⟨child, hchild, hnode⟩, hdefect⟩
          exact ⟨child, hchild, (ih side child hchild path).2 ⟨node, hnode, hdefect⟩⟩
    · have hown : ⟨path, defect⟩ ∈ outline.findings ↔ path = [] ∧ outline.HasDefect defect := by
        rw [findings_eq, if_neg hoperator]
        split_ifs with hoperand
        · rw [mem_map_here, hasDefect_operand hoperand]
        · rw [hasDefect_other hoperator hoperand, List.mem_singleton, Finding.mk.injEq]
      rw [hown]
      cases path with
      | nil => simp [node?]
      | cons side path => simp [node?_cons_of_ne hoperator]

/-! ## The order of findings -/

/-- The defect of a text stands in the place of the value. -/
theorem TextDefect.rank {text : String} (h : TextDefect text defect) : defect.rank = 1 := by
  cases h with
  | opening _ h => cases h <;> rfl
  | unsplit | refused | joined => rfl

/-- The defect of the value of an operator stands in the place of the value. -/
theorem rank_of_mem_operatorDefects {value : Option String} (h : defect ∈ operatorDefects value) :
    defect.rank = 1 := by
  rcases mem_operatorDefects_iff.1 h with ⟨-, rfl⟩ | ⟨word, -, -, rfl⟩ <;> rfl

/-- What is found at one node is in order if the defects are. -/
theorem pairwise_here_iff {defects : List Defect} :
    ((defects.map (Finding.mk [])).Pairwise fun earlier later => earlier.place < later.place) ↔
      defects.Pairwise fun earlier later => earlier.rank < later.rank := by
  rw [List.pairwise_map]
  simp [Finding.place, List.cons_lt_cons_iff]

/-- The defects of an operator are in order, since there is at most one. -/
theorem pairwise_operatorDefects (value : Option String) :
    (operatorDefects value).Pairwise fun earlier later => earlier.rank < later.rank := by
  cases value with
  | none => exact List.pairwise_singleton _ _
  | some word =>
    unfold operatorDefects
    dsimp only
    split_ifs
    · exact .nil
    · exact List.pairwise_singleton _ _

/-- The defects of an operand are in order: the children come before the value. -/
theorem pairwise_operandDefects (value : Option String) (hasChildren : Bool) :
    (operandDefects value hasChildren).Pairwise fun earlier later => earlier.rank < later.rank := by
  unfold operandDefects
  refine List.pairwise_append.2 ⟨by cases hasChildren <;> simp, ?_, ?_⟩
  · cases value with
    | none => exact List.pairwise_singleton _ _
    | some text => cases operandDefect? text <;> simp
  · intro earlier hearlier later hlater
    have hearlier : earlier.rank = 0 := by
      cases hasChildren with
      | false => cases hearlier
      | true => rw [List.mem_singleton.1 hearlier]; rfl
    have hlater : later.rank = 1 := by
      cases value with
      | none => rw [List.mem_singleton.1 hlater]; rfl
      | some text =>
        exact (operandDefect?_eq_some_iff.1 (Option.mem_toList.1 hlater)).rank
    rw [hearlier, hlater]
    exact Nat.one_pos

/-- What is found on a side stands where the side comes. -/
theorem exists_place_eq_cons {finding : Finding} (h : finding ∈ childFindings side child?) :
    ∃ rest, finding.place = side.rank :: rest := by
  cases child? with
  | none =>
    obtain rfl := List.mem_singleton.1 h
    exact ⟨[], rfl⟩
  | some child =>
    obtain ⟨finding, -, rfl⟩ := List.mem_map.1 h
    exact ⟨finding.place, finding.place_under side⟩

/-- **Findings are listed in the order of their places.** -/
theorem pairwise_findings (outline : Outline) :
    outline.findings.Pairwise fun earlier later => earlier.place < later.place := by
  induction outline using childInduction with
  | node outline ih =>
    have hsides : ∀ side, (childFindings side (outline.child? side)).Pairwise
        fun earlier later => earlier.place < later.place := by
      intro side
      cases hchild : outline.child? side with
      | none => simp [childFindings]
      | some child =>
        refine List.pairwise_map.2 ((ih side child hchild).imp ?_)
        intro earlier later h
        rw [Finding.place_under, Finding.place_under]
        exact List.cons_lt_cons_iff.2 (.inr ⟨rfl, h⟩)
    rw [findings_eq]
    split_ifs with hoperator hoperand
    -- What the operator is found to be comes first, and its left side comes before its right side.
    · rw [List.append_assoc, List.pairwise_append, List.pairwise_append]
      refine ⟨pairwise_here_iff.2 (pairwise_operatorDefects _),
        ⟨hsides .left, hsides .right, ?_⟩, ?_⟩
      · intro earlier hearlier later hlater
        obtain ⟨rest, hplace⟩ := exists_place_eq_cons hearlier
        obtain ⟨rest', hplace'⟩ := exists_place_eq_cons hlater
        rw [hplace, hplace']
        exact List.cons_lt_cons_iff.2 (.inl (by decide))
      · intro earlier hearlier later hlater
        obtain ⟨defect, hdefect, rfl⟩ := List.mem_map.1 hearlier
        have hplace : ∃ side rest, later.place = Side.rank side :: rest :=
          (List.mem_append.1 hlater).elim (fun h => ⟨_, exists_place_eq_cons h⟩)
            fun h => ⟨_, exists_place_eq_cons h⟩
        obtain ⟨side, rest, hplace⟩ := hplace
        rw [hplace, Finding.place, rank_of_mem_operatorDefects hdefect]
        exact List.cons_lt_cons_iff.2 (.inl (by cases side <;> decide))
    · exact pairwise_here_iff.2 (pairwise_operandDefects _ _)
    · exact List.pairwise_singleton _ _

/-! ## Findings as issues -/

/-- **The issues of the nodes of an outline are its findings, written out** with the address of the
outline in front of theirs. -/
theorem nodeIssues_eq_map (outline : Outline) (path : Path) :
    outline.nodeIssues path =
      outline.findings.map fun finding => ⟨(path ++ finding.path).text, finding.defect⟩ := by
  induction outline using childInduction generalizing path with
  | node outline ih =>
    have hsides : ∀ side, childIssues path side (outline.child? side) =
        (childFindings side (outline.child? side)).map
          fun finding => ⟨(path ++ finding.path).text, finding.defect⟩ := by
      intro side
      cases hchild : outline.child? side with
      | none => simp [childIssues, childFindings]
      | some child =>
        rw [childIssues, ih side child hchild]
        simp [childFindings, Finding.under, Function.comp_def]
    rcases outline with ⟨type, value, left, right⟩
    have hleft : childIssues path .left left = _ := hsides .left
    have hright : childIssues path .right right = _ := hsides .right
    rw [nodeIssues_eq, findings_eq, hleft, hright]
    split_ifs with hoperator hoperand
    · simp [child?, Function.comp_def]
    · simp
    · simp

/-- The issues of an outline with findings are the findings. -/
theorem issues_of_findings (h : outline.findings ≠ []) :
    outline.issues = outline.findings.map Finding.issue := by
  have hissues : outline.nodeIssues [] = outline.findings.map Finding.issue :=
    nodeIssues_eq_map outline []
  unfold issues
  rw [hissues]
  split
  case h_1 hnil => exact absurd (List.map_eq_nil_iff.1 hnil) h
  case h_2 => rfl

/-- The issue of an outline without findings can only be that of the nesting of its rule. -/
theorem issues_of_findings_nil (h : outline.findings = []) :
    ∃ rule, outline.decode = .ok rule ∧ outline.issues = rule.nestingIssues := by
  have hissues : outline.nodeIssues [] = [] := by
    rw [nodeIssues_eq_map, h, List.map_nil]
  obtain ⟨rule, hdecode, -⟩ := decode_of_nodeIssues outline [] hissues
  refine ⟨rule, hdecode, ?_⟩
  unfold issues
  rw [hissues]
  exact nestingIssues_of_decode hdecode

/-- **The check of an outline is complete, and its addresses lead to the defects.** The findings in
an outline are the defects of the nodes that operators lead to, listed in the order of their places.
If there are any, they are the issues of the outline. If there are none, the outline stands for a
rule, and has at most the issue that the rule nests its brackets too deep. No issue is reported
twice, and an address can be told from its text. A text has no defect as that of a condition if and
only if its tokens are a name, a comparator and a literal or a name. -/
theorem reports_every_defect :
    (∀ outline : Outline,
      (∀ finding, finding ∈ outline.findings ↔ outline.Finds finding) ∧
      (outline.findings.Pairwise fun earlier later => earlier.place < later.place) ∧
      ((∃ finding, outline.Finds finding) ∧
          outline.issues = outline.findings.map Finding.issue ∨
        (¬∃ finding, outline.Finds finding) ∧ ∃ rule, outline.decode = .ok rule ∧
          outline.issues = if maxNesting < rule.bracketDepth then
            [⟨Path.text [], .nestingTooDeep rule.bracketDepth⟩] else []) ∧
      outline.issues.Nodup) ∧
    Function.Injective Path.text ∧
    ∀ text : String, (¬∃ defect, TextDefect text defect) ↔
      ∃ name symbol right, Token.scan text.toList = .ok [name, symbol, right] ∧
        name.kind = .identifier ∧ symbol.kind = .comparator ∧
        (right.kind = .literal ∨ right.kind = .identifier) := by
  refine ⟨fun outline => ?_, Path.text_injective, fun text => ?_⟩
  · have hmem : ∀ finding, finding ∈ outline.findings ↔ outline.Finds finding :=
      fun finding => mem_findings_iff outline finding.path finding.defect
    refine ⟨hmem, pairwise_findings outline, ?_⟩
    by_cases h : outline.findings = []
    · have hnone : ¬∃ finding, outline.Finds finding := by
        rintro ⟨finding, hfinds⟩
        have hfinding := (hmem finding).2 hfinds
        rw [h] at hfinding
        cases hfinding
      obtain ⟨rule, hdecode, hissues⟩ := issues_of_findings_nil h
      refine ⟨.inr ⟨hnone, rule, hdecode, hissues⟩, ?_⟩
      rw [hissues, Rule.nestingIssues]
      split_ifs
      · exact List.nodup_singleton _
      · exact List.nodup_nil
    · obtain ⟨finding, hfinding⟩ := List.exists_mem_of_ne_nil _ h
      have hissues := issues_of_findings h
      refine ⟨.inl ⟨⟨finding, (hmem finding).1 hfinding⟩, hissues⟩, ?_⟩
      rw [hissues]
      refine List.Nodup.map Finding.issue_injective ((pairwise_findings outline).imp ?_)
      rintro earlier _ hlt rfl
      exact List.lt_irrefl _ hlt
  · have hnone : (¬∃ defect, TextDefect text defect) ↔ operandDefect? text = none := by
      rw [Option.eq_none_iff_forall_ne_some, not_exists]
      exact forall_congr' fun defect => not_congr operandDefect?_eq_some_iff.symm
    rw [hnone, operandDefect?_eq_none_iff]
    constructor
    · rintro ⟨_, hscan, ⟨hname, hsymbol, hright⟩⟩
      exact ⟨_, _, _, hscan, hname, hsymbol, hright⟩
    · rintro ⟨name, symbol, right, hscan, hname, hsymbol, hright⟩
      exact ⟨_, hscan, .mk hname hsymbol hright⟩

/-- Defects on both sides, and one of the operator between them. -/
example : (⟨operatorType, some "OR", some ⟨operandType, some "> limit", none, none⟩,
      some ⟨operatorType, some "XOR", some ⟨operandType, some "a = true", none, none⟩,
        some ⟨operandType, some "b gt limit", none, none⟩⟩⟩ : Outline).issues =
    [⟨"root.left", .emptyAttribute⟩, ⟨"root.right", .unknownOperator "XOR"⟩,
      ⟨"root.right.right", .unknownComparator "gt"⟩] := by
  rfl

end Outline

end Criteria

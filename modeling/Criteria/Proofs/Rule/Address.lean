import Criteria.Rule.Basic
import Mathlib.Data.List.Induction
import Mathlib.Data.List.Nodup

/-!
# Addresses and their nodes

An address can be told from its text, and the addresses of the nodes of a rule can be listed: each
once, behind those of the nodes below it.

## Main definitions

* `Criteria.Rule.nodes` — the addresses of the nodes of a rule.

## Main results

* `Criteria.Path.text_injective` — no two addresses have the same text.
* `Criteria.Rule.mem_nodes_iff`, `Criteria.Rule.nodup_nodes` — the addresses are those of all nodes,
  each once.
-/

set_option autoImplicit false
set_option relaxedAutoImplicit false

namespace Criteria

/-! ## Addresses as texts -/

/-- The text of an address is `root` and, behind it, the turns. -/
theorem Path.toList_text (path : Path) :
    path.text.toList = "root".toList ++ path.flatMap fun side => '.' :: side.word.toList := by
  induction path using List.reverseRecOn with
  | nil => rfl
  | append_singleton path side ih => simp [ih]

/-- **An address can be told from its text.** -/
theorem Path.text_injective : Function.Injective Path.text := by
  intro path path' h
  have hturns := congrArg String.toList h
  rw [toList_text, toList_text, List.append_cancel_left_eq] at hturns
  clear h
  induction path generalizing path' with
  | nil =>
    cases path' with
    | nil => rfl
    | cons side path' => simp at hturns
  | cons side path ih =>
    cases path' with
    | nil => simp at hturns
    | cons side' path' =>
      cases side <;> cases side' <;> simp [Side.word] at hturns ⊢ <;> exact ih hturns

/-- There is no colon in the text of an address. -/
theorem Path.colon_notMem_text (path : Path) : ':' ∉ path.text.toList := by
  rw [toList_text]
  intro h
  rcases List.mem_append.mp h with hroot | hturns
  · revert hroot
    decide
  · obtain ⟨side, -, hside⟩ := List.mem_flatMap.mp hturns
    revert hside
    cases side <;> decide

/-! ## The nodes of a rule -/

namespace Rule

/-- The addresses of the nodes of a rule: those on the left side, those on the right side and the
root. -/
def nodes : Rule → List Path
  | .condition _ => [[]]
  | .join _ left right => left.nodes.map (.left :: ·) ++ (right.nodes.map (.right :: ·) ++ [[]])

/-- The addresses are those of all nodes. -/
theorem mem_nodes_iff {rule : Rule} {path : Path} :
    path ∈ rule.nodes ↔ (rule.node? path).isSome := by
  induction rule generalizing path with
  | condition c => cases path <;> simp [nodes, node?]
  | join op left right ihl ihr =>
    cases path with
    | nil => simp [nodes, node?]
    | cons side path => cases side <;> simp [nodes, node?, ihl, ihr]

/-- No address is listed twice. -/
theorem nodup_nodes (rule : Rule) : rule.nodes.Nodup := by
  induction rule with
  | condition c => exact List.nodup_singleton []
  | join op left right ihl ihr =>
    have hcons : ∀ side : Side, Function.Injective (side :: · : Path → Path) :=
      fun side => List.cons_injective
    have hright : (right.nodes.map (Side.right :: ·) ++ [[]]).Nodup := by
      rw [List.nodup_append_comm]
      exact List.nodup_cons.mpr ⟨by simp, ihr.map (hcons .right)⟩
    refine (ihl.map (hcons .left)).append hright ?_
    simp [List.disjoint_left]

end Rule

end Criteria

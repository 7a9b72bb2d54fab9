import Criteria.Outline.Json
import Criteria.Proofs.Rule.RoundTrip

/-!
# Chains

A chain of conditions under one connective needs no brackets, however long it is. So chains are
valid rules of any depth, with short texts.

## Main definitions

* `Criteria.Rule.chain` — a condition, joined with itself a number of times.

## Main results

* `Criteria.Rule.issues_chain` — every chain is valid.
* `Criteria.Rule.depth_chain`, `Criteria.Rule.length_text_chain`,
  `Criteria.Outline.length_chars_chain` — how deep it is and how long its texts are.
-/

set_option autoImplicit false
set_option relaxedAutoImplicit false

namespace Criteria

namespace Rule

/-- The condition that chains are made of. -/
def link : Condition := ⟨"a", .eq, .bool true⟩

/-- A condition, joined with itself a number of times. -/
def chain : Nat → Rule
  | 0 => .condition link
  | n + 1 => .join .conj (chain n) (.condition link)

/-- A chain has one level more than it has joints. -/
theorem depth_chain (n : Nat) : (chain n).depth = n + 1 := by
  induction n with
  | zero => rfl
  | succ n ih =>
    rw [chain, depth, ih, depth]
    omega

/-- A chain is not bracketed at the start of a chain. -/
theorem needsBrackets_chain (n : Nat) : (chain n).needsBrackets .conj .left = false := by
  cases n <;> rfl

/-- **Every chain is valid.** -/
theorem issues_chain (n : Nat) : (chain n).issues = [] := by
  have hlink : (condition link).Clean := clean_condition_iff.mpr rfl
  have hclean : (chain n).Clean := by
    induction n with
    | zero => exact hlink
    | succ n ih => exact clean_join_iff.mpr ⟨ih, hlink⟩
  have hdepth : (chain n).bracketDepth = 0 := by
    induction n with
    | zero => rfl
    | succ n ih =>
      rw [chain, bracketDepth, ih (clean_join_iff.mp hclean).1, needsBrackets_chain]
      rfl
  exact issues_eq_nil_iff.mpr ⟨hclean, by omega⟩

/-- The text of a chain. -/
theorem text_chain_succ (n : Nat) : (chain (n + 1)).text = (chain n).text ++ " AND a = true" := by
  rw [chain, text, needsBrackets_chain]
  show (chain n).text ++ " " ++ "AND" ++ " " ++ "a = true" = _
  simp only [String.append_assoc]
  rfl

/-- The length of the text of a chain. -/
theorem length_text_chain (n : Nat) : (chain n).text.length = 13 * n + 8 := by
  induction n with
  | zero => rfl
  | succ n ih =>
    have hlink : " AND a = true".length = 13 := rfl
    rw [text_chain_succ, String.length_append, ih, hlink]
    omega

end Rule

/-- The length of the JSON text of two outlines that are joined. -/
theorem Outline.length_chars_join (left right : Outline) :
    (⟨operatorType, some "AND", some left, some right⟩ : Outline).json.chars.length =
      left.json.chars.length + right.json.chars.length + 50 := by
  have htype : (Json.escape "type".toList).length = 4 := by decide
  have hvalue : (Json.escape "value".toList).length = 5 := by decide
  have hleft : (Json.escape "left".toList).length = 4 := by decide
  have hright : (Json.escape "right".toList).length = 5 := by decide
  have hoperator : (Json.escape operatorType.toList).length = 8 := by decide
  have hword : (Json.escape "AND".toList).length = 3 := by decide
  simp only [json, members, optionalText, Json.chars, Json.memberChars, List.cons_append,
    List.nil_append, Json.quote, List.length_append, List.length_cons, List.length_nil, htype,
    hvalue, hleft, hright, hoperator, hword]
  omega

/-- The length of the JSON text of a chain. -/
theorem Outline.length_chars_chain (n : Nat) :
    (ofRule (Rule.chain n)).json.chars.length = 87 * n + 37 := by
  have hlink : (ofRule (.condition Rule.link)).json.chars.length = 37 := by decide
  induction n with
  | zero => exact hlink
  | succ n ih =>
    have hjoin := length_chars_join (ofRule (Rule.chain n)) (ofRule (.condition Rule.link))
    rw [ih, hlink] at hjoin
    show (⟨operatorType, some "AND", some (ofRule (Rule.chain n)),
      some (ofRule (.condition Rule.link))⟩ : Outline).json.chars.length = _
    omega

end Criteria

import Criteria.Proofs.Rule.Combination

/-!
# Combining texts

Rules can be combined before or after they are written down: texts that are put into brackets and
joined by the word for a connective are read as the combination of the rules that they are read as.

## Main definitions

* `Criteria.Rule.gathered` — texts in brackets, with the word for a connective between them.

## Main results

* `Criteria.Spells.gather` — parts with the word for a connective between them spell their join.
* `Criteria.Rule.spells_of_ofText` — a text spells what it is read as, with brackets as deep as they
  are nested in its tokens.
* `Criteria.Rule.combine_eq_ofText_gathered` — combining texts is combining rules.
-/

set_option autoImplicit false
set_option relaxedAutoImplicit false

namespace Criteria

variable {op : Connective} {depth : Nat}

/-! ## Parts with words between them -/

/-- The first two of several lists with a separator between them may be put together before. -/
theorem intercalate_cons_cons_eq {α : Type} (separator first second : List α)
    (rest : List (List α)) : separator.intercalate (first :: second :: rest) =
      separator.intercalate ((first ++ (separator ++ second)) :: rest) := by
  cases rest with
  | nil => simp [List.intercalate_cons_cons]
  | cons third rest => simp [List.intercalate_cons_cons]

/-- The word for a connective, with a blank on each side. -/
def Connective.separator (op : Connective) : String := " " ++ op.word ++ " "

theorem Connective.toList_separator (op : Connective) :
    op.separator.toList = ' ' :: (op.word.toList ++ [' ']) := by
  simp [separator]

/-- **Parts with the word for a connective between them spell their join.**

**Proof sketch.** Induction on the parts behind the first. The first two make a longer chain
(`Spells.join`), which takes the place of the first. -/
theorem Spells.gather {first : List Char × Rule} {others : List (List Char × Rule)}
    (hfirst : Spells (.chain op) depth first.1 first.2)
    (hothers : ∀ other ∈ others, Spells op.part depth other.1 other.2) :
    Spells (.chain op) depth
      (op.separator.toList.intercalate ((first :: others).map Prod.fst))
      (Rule.joinAll op first.2 (others.map Prod.snd)) := by
  induction others generalizing first with
  | nil => simpa [Rule.joinAll] using hfirst
  | cons other others ih =>
    obtain ⟨hother, hothers⟩ := List.forall_mem_cons.mp hothers
    have hjoin := hfirst.join hother
    have htext : first.1 ++ ' ' :: (op.word.toList ++ ' ' :: other.1) =
        first.1 ++ (op.separator.toList ++ other.1) := by
      simp [Connective.toList_separator]
    rw [htext] at hjoin
    have hall := @ih (first.1 ++ (op.separator.toList ++ other.1), .join op first.2 other.2)
      hjoin hothers
    rw [List.map_cons, List.map_cons, intercalate_cons_cons_eq]
    exact hall

namespace Rule

/-! ## Texts in brackets -/

/-- Texts in brackets, with the word for a connective between them. -/
def gathered (op : Connective) (texts : List String) : String :=
  op.separator.intercalate (texts.map fun text => "(" ++ text ++ ")")

/-- A text spells what it is read as, with brackets as deep as they are nested in its tokens. -/
theorem spells_of_ofText {text : String} {rule : Rule} {tokens : List Token}
    (h : ofText text = .ok rule) (hscan : Token.scan text.toList = .ok tokens)
    (hdepth : Token.nesting tokens ≤ depth) :
    Spells (.chain .disj) depth text.toList rule := by
  obtain ⟨tokens', hscan', hderives⟩ := ofText_eq_ok_iff.mp h
  obtain rfl : tokens = tokens' := Except.ok.inj (hscan.symm.trans hscan')
  exact ⟨tokens, hscan, hderives.tighten.mono hdepth⟩

/-- Whatever spells a rule with brackets as deep as allowed shows that its text nests no deeper. -/
theorem bracketDepth_le_of_spells {phrase : Phrase} {text : List Char} {rule : Rule}
    (h : Spells phrase depth text rule) : rule.bracketDepth ≤ depth := by
  obtain ⟨tokens, -, hderives⟩ := h
  exact hderives.bracketDepth_le_nesting.trans hderives.nesting_le

/-- **Combining texts is combining rules.** Texts that are read as rules and nest their brackets
less deep than is allowed can be gathered under each connective, and what they are gathered to is
read as the combination of the rules.

**Proof sketch.** Each text in brackets is an operand, one level deeper than the text
(`Spells.brackets`), and so a part of the chain. The chain spells the join of the rules
(`Spells.gather`); so it is read as the join, and since printing needs the fewest brackets, the join
nests no deeper than combining allows. -/
theorem combine_eq_ofText_gathered (op : Connective) {sources : List (String × Rule)}
    (hne : sources ≠ []) (hread : ∀ source ∈ sources, ofText source.1 = .ok source.2)
    (hnest : ∀ source ∈ sources, ∀ tokens, Token.scan source.1.toList = .ok tokens →
      Token.nesting tokens < maxNesting) :
    ∃ combined, ofText (gathered op (sources.map Prod.fst)) = .ok combined ∧
      combine op (sources.map Prod.snd) = .ok combined := by
  have hoperand : ∀ source ∈ sources,
      Spells .operand maxNesting ('(' :: (source.1.toList ++ [')'])) source.2 := by
    intro source hmem
    obtain ⟨tokens, hscan, -⟩ := ofText_eq_ok_iff.mp (hread source hmem)
    have hdepth := hnest source hmem tokens hscan
    have hinside := spells_of_ofText (hread source hmem) hscan (Nat.le_sub_one_of_lt hdepth)
    exact hinside.brackets.mono (by omega)
  obtain ⟨first, others, rfl⟩ := List.exists_cons_of_ne_nil hne
  obtain ⟨hfirst, hothers⟩ := List.forall_mem_cons.mp hoperand
  let bracket (source : String × Rule) : List Char × Rule :=
    ('(' :: (source.1.toList ++ [')']), source.2)
  have hchain : Spells (.chain op) maxNesting (bracket first).1 (bracket first).2 :=
    hfirst.loosen (by cases op <;> decide)
  have hparts : ∀ other ∈ others.map bracket, Spells op.part maxNesting other.1 other.2 := by
    intro other hmem
    obtain ⟨source, hsource, rfl⟩ := List.mem_map.mp hmem
    exact (hothers source hsource).loosen (by cases op <;> decide)
  have hspells := hchain.gather hparts
  have htext : (gathered op ((first :: others).map Prod.fst)).toList =
      op.separator.toList.intercalate ((bracket first :: others.map bracket).map Prod.fst) := by
    have hmap : (((first :: others).map Prod.fst).map fun text => "(" ++ text ++ ")").map
        String.toList = (first :: others).map (Prod.fst ∘ bracket) := by
      simp [bracket, Function.comp_def]
    rw [gathered, String.toList_intercalate, hmap, ← List.map_map, List.map_cons]
  have hrules : (others.map bracket).map Prod.snd = others.map Prod.snd := by
    simp [bracket, Function.comp_def]
  rw [← htext, hrules] at hspells
  refine ⟨joinAll op first.2 (others.map Prod.snd), ?_, ?_⟩
  · rw [ofText_eq_ok_iff]
    exact hspells.loosen (Phrase.precedence_disj_le _)
  · rw [combine_eq_ok_iff]
    exact ⟨first.2, others.map Prod.snd, rfl, rfl, bracketDepth_le_of_spells hspells⟩

/-- Texts with a connective of the other kind, and with a bracket in quotation marks. -/
theorem combine_eq_ofText_gathered_quoted :
    let left : Rule := .join .disj (.condition ⟨"a", .eq, .string "yes"⟩)
      (.condition ⟨"b", .eq, .string ")"⟩)
    let right : Rule := .condition ⟨"c", .ne, .string "x"⟩
    gathered .conj ["a = yes OR b = ')'", "(c != x)"] = "(a = yes OR b = ')') AND ((c != x))" ∧
      ∃ combined, ofText (gathered .conj ["a = yes OR b = ')'", "(c != x)"]) = .ok combined ∧
        combine .conj [left, right] = .ok combined := by
  intro left right
  have hleft : ofText "a = yes OR b = ')'" = .ok left := rfl
  have hright : ofText "(c != x)" = .ok right := rfl
  have hflat : (Token.scan "a = yes OR b = ')'".toList).map Token.nesting = .ok 0 := rfl
  have hdeep : (Token.scan "(c != x)".toList).map Token.nesting = .ok 1 := rfl
  have hnest : ∀ {text : String} {depth : Nat} {tokens : List Token},
      (Token.scan text.toList).map Token.nesting = .ok depth → depth < maxNesting →
      Token.scan text.toList = .ok tokens → Token.nesting tokens < maxNesting := by
    intro text depth tokens hdepth hlt hscan
    rw [hscan] at hdepth
    exact (Except.ok.inj hdepth).trans_lt hlt
  refine ⟨rfl, @combine_eq_ofText_gathered .conj
    [("a = yes OR b = ')'", left), ("(c != x)", right)] (List.cons_ne_nil _ _) ?_ ?_⟩
  · exact List.forall_mem_cons.mpr ⟨hleft, List.forall_mem_singleton.mpr hright⟩
  · exact List.forall_mem_cons.mpr ⟨fun _ => hnest hflat (by decide),
      List.forall_mem_singleton.mpr fun _ => hnest hdeep (by decide)⟩

end Rule

end Criteria

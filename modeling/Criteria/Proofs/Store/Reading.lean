import Criteria.Proofs.Outline.Decode
import Criteria.Store.Basic

/-!
# What is read can be kept

A rule that was read from a text is valid in every form, so it compiles, it can be saved, and it
can be saved again from its own text or from its outline.

## Main results

* `Criteria.Compiler.compile_of_issues` — a valid rule compiles under every id but the empty one.
* `Criteria.Store.save_of_issues`, `Criteria.Store.saveText_of_ofText` — such a rule is saved.
* `Criteria.Rule.kept_of_ofText` — what is read from a text is accepted wherever it is handed in.
-/

set_option autoImplicit false
set_option relaxedAutoImplicit false

namespace Criteria

/-- A valid rule compiles under every id but the empty one. -/
theorem Compiler.compile_of_issues (compiler : Compiler) {definition : Definition}
    (hid : definition.id ≠ "") (h : definition.rule.issues = []) :
    compiler.compile definition =
      .ok (⟨definition, definition.rule.attributes, compiler.version + 1⟩,
        ⟨compiler.version + 1⟩) := by
  unfold compile
  rw [if_neg hid, h]

namespace Store

/-- A valid rule is saved under every id but the empty one. -/
theorem save_of_issues (store : Store) {definition : Definition} (hid : definition.id ≠ "")
    (h : definition.rule.issues = []) :
    ∃ store', store.save definition = .ok (definition.id, store') := by
  unfold save compile
  rw [store.compiler.compile_of_issues hid h]
  exact ⟨_, rfl⟩

/-- A text that is read as a valid rule is saved under every id but the empty one. -/
theorem saveText_of_ofText (store : Store) {id text : String} {rule : Rule} (hid : id ≠ "")
    (hread : Rule.ofText text = .ok rule) (h : rule.issues = []) (name createdAt : String) :
    ∃ store', store.saveText id name createdAt text = .ok (id, store') := by
  have hsave : ∃ store', store.save ⟨id, name, rule, createdAt⟩ = .ok (id, store') :=
    store.save_of_issues hid h
  unfold saveText
  rw [hread]
  exact hsave

end Store

/-- **What is read from a text can be kept.** It is valid, and so is its outline; it compiles and
is saved, whatever has been compiled or stored before; and it is read back from its own text and
from its outline, so that both can be saved in its place. -/
theorem Rule.kept_of_ofText {text : String} {rule : Rule} (h : Rule.ofText text = .ok rule) :
    (rule.issues = [] ∧ (Outline.ofRule rule).issues = []) ∧
    (∀ (compiler : Compiler) (definition : Definition), definition.id ≠ "" →
      definition.rule = rule → ∃ result, compiler.compile definition = .ok result) ∧
    (∀ (store : Store) (id name createdAt : String), id ≠ "" →
      (∃ store', store.saveText id name createdAt text = .ok (id, store')) ∧
      (∃ store', store.saveText id name createdAt rule.text = .ok (id, store'))) ∧
    Rule.ofText rule.text = .ok rule ∧ (Outline.ofRule rule).toRule = .ok rule ∧
    ∀ (store : Store) (definition : Definition), definition.id ≠ "" → definition.rule = rule →
      ∃ store', store.save definition = .ok (definition.id, store') := by
  have hissues : rule.issues = [] := Rule.issues_of_ofText h
  have hback : Rule.ofText rule.text = .ok rule := Rule.ofText_text hissues
  obtain ⟨houtline, htoRule⟩ := Outline.toRule_ofRule hissues
  refine ⟨⟨hissues, houtline⟩, ?_, ?_, hback, htoRule, ?_⟩
  · rintro compiler definition hid rfl
    exact ⟨_, compiler.compile_of_issues hid hissues⟩
  · intro store id name createdAt hid
    exact ⟨store.saveText_of_ofText hid h hissues name createdAt,
      store.saveText_of_ofText hid hback hissues name createdAt⟩
  · rintro store definition hid rfl
    exact store.save_of_issues hid hissues

/-- A text with brackets that its rule does not need is read, and the rule is kept under an id. -/
theorem Rule.kept_of_brackets :
    Rule.ofText "(a = b OR ((c = 'x'))) AND e != true" =
      .ok (.join .conj (.join .disj (.condition ⟨"a", .eq, .string "b"⟩)
        (.condition ⟨"c", .eq, .string "x"⟩)) (.condition ⟨"e", .ne, .bool true⟩)) ∧
    (∃ store', Store.fresh.saveText "id" "name" "now" "(a = b OR ((c = 'x'))) AND e != true" =
      .ok ("id", store')) :=
  have hread : Rule.ofText "(a = b OR ((c = 'x'))) AND e != true" =
      .ok (.join .conj (.join .disj (.condition ⟨"a", .eq, .string "b"⟩)
        (.condition ⟨"c", .eq, .string "x"⟩)) (.condition ⟨"e", .ne, .bool true⟩)) := rfl
  ⟨hread, ((Rule.kept_of_ofText hread).2.2.1 .fresh "id" "name" "now" (by decide)).1⟩

end Criteria

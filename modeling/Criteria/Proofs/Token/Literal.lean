import Criteria.Operator
import Criteria.Proofs.Number.Text
import Criteria.Proofs.Rule.Grammar
import Criteria.Proofs.Token.Word

/-!
# What is written as one token

A name, the symbol of a comparator, the word for a connective and the text of a value are each
one token, and the token says what was written.

## Main definitions

* `Criteria.Value.Finite` — a value that is finite, if it is a number.

## Main results

* `Criteria.isName_iff` — a name is a text that is split as one identifier.
* `Criteria.Comparator.scan_symbol`, `Criteria.Connective.scan_word` — the symbol of a comparator
  and the word for a connective are one token each.
* `Criteria.Value.scan_text` — the text of a value is one token, unless the value is a number
  that is not finite.
-/

set_option autoImplicit false
set_option relaxedAutoImplicit false

namespace Criteria

/-! ## Names -/

/-- A name is a text that is split as one identifier. -/
theorem isName_iff {text : String} : isName text = true ↔
    ∃ token : Token, Token.scan text.toList = .ok [token] ∧ token.kind = .identifier ∧
      token.text = text := by
  unfold isName
  constructor
  · intro h
    split at h
    case h_1 token hscan =>
      rw [Bool.and_eq_true, beq_iff_eq, beq_iff_eq] at h
      exact ⟨token, hscan, h⟩
    case h_2 => cases h
  · rintro ⟨token, hscan, hkind, htext⟩
    rw [hscan]
    simp [hkind, htext]

/-- A text of blanks has no tokens. -/
theorem Token.scanFrom_blank {text : List Char} (h : ∀ c ∈ text, isBlank c = true)
    (offset : Nat) : scanFrom 0 offset text = .ok [] := by
  rw [← List.append_nil text, scanFrom_gap h]
  rfl

/-- Only blanks are left of a text that trims to nothing. -/
theorem isBlank_of_trimBlank {text : List Char} (h : trimBlank text = []) :
    ∀ c ∈ text, isBlank c = true := by
  unfold trimBlank at h
  rw [List.reverse_eq_nil_iff, List.dropWhile_eq_nil_iff] at h
  have hdrop : text.dropWhile isBlank = [] := by
    by_contra hne
    have hhead := List.head_dropWhile_not isBlank hne
    rw [h _ (List.mem_reverse.2 (List.head_mem hne))] at hhead
    cases hhead
  exact List.dropWhile_eq_nil_iff.1 hdrop

/-- A name does not consist of blanks. -/
theorem trimBlank_ne_nil {text : String} (h : isName text = true) :
    trimBlank text.toList ≠ [] := by
  intro htrim
  obtain ⟨token, hscan, -, -⟩ := isName_iff.1 h
  have hnone := Token.scanFrom_blank (isBlank_of_trimBlank htrim) 0
  rw [Token.scan, hnone] at hscan
  cases hscan

/-! ## Comparators -/

/-- The symbol of a comparator is one token. -/
theorem Comparator.scan_symbol (comparator : Comparator) : ∃ token : Token,
    Token.scan comparator.symbol.toList = .ok [token] ∧ token.kind = .comparator ∧
      token.text = comparator.symbol := by
  cases comparator <;> exact ⟨_, rfl, rfl, rfl⟩

/-! ## Connectives -/

/-- The word for a connective is one token. -/
theorem Connective.scan_word (op : Connective) : ∃ token : Token,
    Token.scan op.word.toList = .ok [token] ∧ token.kind = op.kind := by
  cases op <;> exact ⟨_, rfl, rfl⟩

/-! ## Values -/

/-- The text of a finite number consists of word characters. -/
theorem Number.isWordChar_of_mem_chars {n : Number} (hn : n.isFinite = true) :
    ∀ c ∈ n.chars, isWordChar c = true := by
  obtain ⟨negative, whole, fraction, hchars, -, hdigit, -⟩ := exists_chars hn
  intro c hc
  rw [hchars] at hc
  rcases Numeral.mem_signed hc with rfl | rfl | hc
  · decide
  · decide
  · exact isWordChar_of_isDigit (hdigit c hc)

/-- The text of a finite number is a numeral that denotes it. -/
theorem Number.numeral?_chars {n : Number} (hn : n.isFinite = true) :
    ∃ numeral, Token.numeral? n.chars = some numeral ∧ numeral.number = n := by
  obtain ⟨negative, whole, fraction, hchars, hne, hdigit, hnumber⟩ := exists_chars hn
  have hany : n.chars.any Char.isDigit = true := by
    obtain ⟨first, rest, rfl⟩ := List.exists_cons_of_ne_nil hne
    have hfirst : first.isDigit = true := hdigit first (by simp)
    rw [hchars]
    cases negative <;> simp [Numeral.signed, hfirst]
  refine ⟨_, ?_, hnumber⟩
  rw [Token.numeral?, if_pos hany, hchars, Numeral.read?_signed negative hne hdigit]

namespace Value

/-- If a value is a number, it is finite. -/
def Finite (value : Value) : Prop := ∀ n, value = .number n → n.isFinite = true

/-- The word for a truth value is one token. -/
theorem scan_bool (b : Bool) : ∃ token : Token,
    Token.scan (text (.bool b)).toList = .ok [token] ∧
      token.rightHandSide? = some (.bool b) := by
  cases b <;> exact ⟨_, rfl, rfl⟩

/-- A string in quotation marks is one token, whatever its characters are. -/
theorem scan_string (s : String) : ∃ token : Token,
    Token.scan (text (.string s)).toList = .ok [token] ∧
      token.rightHandSide? = some (.string s) := by
  have hlexeme : lexeme? '"' (Quoted.escape s.toList ++ ['"']) =
      some (.quoted s.toList, (Quoted.escape s.toList ++ ['"']).length) := by
    unfold lexeme?
    rw [if_neg (by decide), if_neg (by decide), if_pos (.inl rfl), Quoted.readBody?_escape,
      List.length_append]
    rfl
  have hscan := Token.scanFrom_eq_singleton 0 (by decide) hlexeme rfl
  rw [text, String.toList_ofList]
  refine ⟨_, hscan, ?_⟩
  rw [String.ofList_toList]
  rfl

/-- The text of a finite number is one token: one word, which is the numeral of the number. -/
theorem scan_number {n : Number} (hn : n.isFinite = true) : ∃ token : Token,
    Token.scan (text (.number n)).toList = .ok [token] ∧
      token.rightHandSide? = some (.number n) := by
  obtain ⟨numeral, hnumeral, rfl⟩ := Number.numeral?_chars hn
  have hne : numeral.number.chars ≠ [] := by
    intro hnil
    rw [hnil] at hnumeral
    cases hnumeral
  have hscan := Token.scanFrom_word hne (Number.isWordChar_of_mem_chars hn)
    (Token.ofWord_of_numeral? 0 _ hnumeral hn)
  rw [text, Number.text, String.toList_ofList]
  exact ⟨_, hscan, rfl⟩

/-- **The text of a value is one token,** which is read as the value, unless it is a number that
is not finite. -/
theorem scan_text {value : Value} (h : value.Finite) :
    ∃ token : Token, Token.scan value.text.toList = .ok [token] ∧
      token.rightHandSide? = some value := by
  cases value with
  | bool b => exact scan_bool b
  | number n => exact scan_number (h n rfl)
  | string s => exact scan_string s

end Value

end Criteria

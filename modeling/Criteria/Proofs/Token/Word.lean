import Criteria.Proofs.Token.Seam
import Criteria.Validation
import Mathlib.Data.List.TakeWhile

/-!
# Words as tokens

A run of word characters is one token, and what its token says depends on the run alone.

## Main results

* `Criteria.isWordChar_of_isBlank` — no blank stands in a word.
* `Criteria.Token.scanFrom_word` — a text of word characters is split as one word.
* `Criteria.Token.isName_of_ofWord` — a word that is read as an identifier is a name.
* `Criteria.Token.sound_of_mem_scanFrom` — the identifiers of every text are names, and its
  numbers are finite.
-/

set_option autoImplicit false
set_option relaxedAutoImplicit false

namespace Criteria

/-! ## Word characters -/

/-- The numbers of the blank characters. -/
def blankNumbers : List Nat :=
  [0x9, 0xA, 0xB, 0xC, 0xD, 0x20, 0x85, 0xA0, 0x1680, 0x2000, 0x2001, 0x2002, 0x2003, 0x2004,
    0x2005, 0x2006, 0x2007, 0x2008, 0x2009, 0x200A, 0x2028, 0x2029, 0x202F, 0x205F, 0x3000]

/-- The blank characters are among those listed. -/
theorem toNat_mem_blankNumbers {c : Char} (h : isBlank c = true) : c.toNat ∈ blankNumbers := by
  simp only [isBlank, Bool.or_eq_true, Bool.and_eq_true, decide_eq_true_eq, beq_iff_eq] at h
  simp only [blankNumbers, List.mem_cons, List.not_mem_nil, or_false]
  omega

/-- No blank stands in a word. -/
theorem isWordChar_of_isBlank {c : Char} (h : isBlank c = true) : isWordChar c = false := by
  have hall : ∀ n ∈ blankNumbers, isWordChar (Char.ofNat n) = false := by decide +kernel
  have hc := hall c.toNat (toNat_mem_blankNumbers h)
  rwa [Char.ofNat_toNat] at hc

/-- A word character is not blank. -/
theorem isBlank_of_isWordChar {c : Char} (h : isWordChar c = true) : isBlank c = false := by
  by_contra hblank
  have hnot := isWordChar_of_isBlank (Bool.of_not_eq_false hblank)
  rw [h] at hnot
  cases hnot

/-- A digit stands in words. -/
theorem isWordChar_of_isDigit {c : Char} (h : c.isDigit = true) : isWordChar c = true := by
  have halphanum : c.isAlphanum = true := by
    rw [Char.isAlphanum, h, Bool.or_true]
  rw [isWordChar, isLetterOrDigit_of_isAlphanum halphanum]
  rfl

/-- A word starts with every word character and takes all of them that follow. -/
theorem lexeme?_of_isWordChar {c : Char} (h : isWordChar c = true) (rest : List Char) :
    lexeme? c rest =
      some (.word (c :: rest.takeWhile isWordChar), (rest.takeWhile isWordChar).length) := by
  have hother : ∀ d, isWordChar d = false → c ≠ d := by
    rintro d hd rfl
    rw [h] at hd
    cases hd
  unfold lexeme?
  rw [if_neg (hother '(' (by decide)), if_neg (hother ')' (by decide)),
    if_neg (not_or.2 ⟨hother '"' (by decide), hother '\'' (by decide)⟩), if_pos h]

/-- A piece that is a word starts with a word character. -/
theorem isWordChar_of_lexeme? {c : Char} {rest word : List Char} {width : Nat}
    (h : lexeme? c rest = some (.word word, width)) : isWordChar c = true := by
  unfold lexeme? at h
  split_ifs at h with _ _ _ hword
  · cases h
  · cases h
  · obtain ⟨_, -, hpair⟩ := Option.map_eq_some_iff.1 h
    cases (Prod.mk.inj hpair).1
  · exact hword
  · obtain ⟨_, -, hpair⟩ := Option.map_eq_some_iff.1 h
    cases (Prod.mk.inj hpair).1

namespace Token

/-! ## Texts of one word -/

variable {word : List Char} {offset stop : Nat} {token : Token}

/-- **A text of word characters is split as one word.** -/
theorem scanFrom_word (hne : word ≠ []) (hword : ∀ c ∈ word, isWordChar c = true)
    (htoken : ofWord word offset (offset + word.length) = .ok token) :
    scanFrom 0 offset word = .ok [token] := by
  obtain ⟨c, rest, rfl⟩ := List.exists_cons_of_ne_nil hne
  obtain ⟨hc, hrest⟩ := List.forall_mem_cons.1 hword
  have htake : rest.takeWhile isWordChar = rest := List.takeWhile_eq_self_iff.2 hrest
  have hlexeme := lexeme?_of_isWordChar hc rest
  rw [htake] at hlexeme
  have hstop : offset + (c :: rest).length = offset + 1 + rest.length := by
    rw [List.length_cons]
    omega
  rw [hstop] at htoken
  exact scanFrom_eq_singleton offset (isBlank_of_isWordChar hc) hlexeme htoken

/-- The token of a word has the word as its text, and its number is finite. -/
theorem ofWord_eq_ok (h : ofWord word offset stop = .ok token) :
    token.text = String.ofList word ∧
      ∀ n, token.value = some (.number n) → n.isFinite = true := by
  unfold ofWord at h
  dsimp only at h
  split_ifs at h
  iterate 4
    obtain rfl := Except.ok.inj h
    exact ⟨rfl, by simp⟩
  split at h
  · obtain rfl := Except.ok.inj h
    exact ⟨rfl, by simp⟩
  · split_ifs at h with hfinite
    obtain rfl := Except.ok.inj h
    refine ⟨rfl, ?_⟩
    rintro n ⟨⟩
    exact hfinite

/-- A word with a numeral is the literal of its number, and is refused if that is not finite. -/
theorem ofWord_eq_of_numeral? (offset stop : Nat) {numeral : Numeral}
    (h : numeral? word = some numeral) : ofWord word offset stop =
      if numeral.number.isFinite = true then
        .ok ⟨.literal, String.ofList word, offset, stop, some (.number numeral.number)⟩
      else .error (.unexpected s!"'{String.ofList word}'" "有限范围内的数值" offset) := by
  have hdigit : word.any Char.isDigit = true := by
    unfold numeral? at h
    split_ifs at h with hdigit
    exact hdigit
  have hother : ∀ reserved : String, reserved.toList.any Char.isDigit = false →
      String.ofList word ≠ reserved := by
    rintro _ hreserved rfl
    rw [String.toList_ofList, hdigit] at hreserved
    cases hreserved
  unfold ofWord
  dsimp only
  rw [if_neg (hother "AND" (by decide)), if_neg (hother "OR" (by decide)),
    if_neg (hother "true" (by decide)), if_neg (hother "false" (by decide)), h]

/-- A word with a finite numeral is the literal of its number. -/
theorem ofWord_of_numeral? (offset stop : Nat) {numeral : Numeral}
    (h : numeral? word = some numeral) (hfinite : numeral.number.isFinite = true) :
    ofWord word offset stop =
      .ok ⟨.literal, String.ofList word, offset, stop, some (.number numeral.number)⟩ := by
  rw [ofWord_eq_of_numeral? offset stop h, if_pos hfinite]

/-- A word that is read as an identifier is a name. -/
theorem isName_of_ofWord (hne : word ≠ []) (hword : ∀ c ∈ word, isWordChar c = true)
    (h : ofWord word offset (offset + word.length) = .ok token)
    (hkind : token.kind = .identifier) : isName token.text = true := by
  obtain ⟨htext, -⟩ := ofWord_eq_ok h
  have hadd := ofWord_add offset word 0 word.length
  rw [Nat.zero_add, Nat.add_comm word.length, h] at hadd
  cases hstart : ofWord word 0 word.length with
  | error fault =>
    rw [hstart] at hadd
    cases hadd
  | ok start =>
    rw [hstart] at hadd
    obtain rfl := Except.ok.inj hadd
    have hscan : scan word = .ok [start] :=
      scanFrom_word hne hword (by rwa [Nat.zero_add])
    have hstartText : start.text = String.ofList word := (ofWord_eq_ok hstart).1
    have hstartKind : start.kind = .identifier := hkind
    rw [htext, isName, String.toList_ofList, hscan]
    simp [hstartText, hstartKind]

/-! ## The tokens of texts -/

/-- What every token of a text satisfies: identifiers are names, and numbers are finite. -/
structure Sound (token : Token) : Prop where
  /-- An identifier is a name. -/
  isName_text : token.kind = .identifier → isName token.text = true
  /-- A number is finite. -/
  isFinite_value : ∀ n, token.value = some (.number n) → n.isFinite = true

/-- The token of a piece of a text is sound. -/
theorem sound_of_ofLexeme {c : Char} {rest : List Char} {lexeme : Lexeme} {width : Nat}
    (hlexeme : lexeme? c rest = some (lexeme, width))
    (htoken : ofLexeme lexeme offset (offset + 1 + width) = .ok token) : token.Sound := by
  cases lexeme with
  | opening | closing | comparator | quoted =>
    obtain rfl := Except.ok.inj htoken
    exact ⟨by simp, by simp⟩
  | word word =>
    have hc := isWordChar_of_lexeme? hlexeme
    rw [lexeme?_of_isWordChar hc] at hlexeme
    obtain ⟨hword, rfl⟩ := Prod.mk.inj (Option.some.inj hlexeme)
    obtain rfl := (Lexeme.word.inj hword).symm
    have hstop : offset + 1 + (rest.takeWhile isWordChar).length =
        offset + (c :: rest.takeWhile isWordChar).length := by
      rw [List.length_cons]
      omega
    rw [hstop] at htoken
    refine ⟨isName_of_ofWord (List.cons_ne_nil _ _) ?_ htoken, (ofWord_eq_ok htoken).2⟩
    exact List.forall_mem_cons.2 ⟨hc, fun d hd => List.mem_takeWhile_imp hd⟩

/-- **The identifiers of a text are names, and its numbers are finite.** -/
theorem sound_of_mem_scanFrom {skip : Nat} {text : List Char} {tokens : List Token}
    (h : scanFrom skip offset text = .ok tokens) : ∀ token ∈ tokens, token.Sound := by
  induction text generalizing skip offset tokens with
  | nil =>
    obtain rfl : tokens = [] := by
      cases skip <;> exact (Except.ok.inj h).symm
    simp
  | cons c rest ih =>
    cases skip with
    | succ skip => exact ih h
    | zero =>
      rcases scanFrom_cons_eq_ok_iff.1 h with ⟨-, htokens⟩ |
        ⟨-, lexeme, width, token, tokens', hlexeme, htoken, htokens, rfl⟩
      · exact ih htokens
      · exact List.forall_mem_cons.2 ⟨sound_of_ofLexeme hlexeme htoken, ih htokens⟩

end Token

end Criteria

import Criteria.Proofs.Number.Reading
import Criteria.Proofs.Token.Tiling

/-!
# Where splitting a text stops

A text cannot be split into tokens if, behind characters that can be split, there is something that
no token starts with, or a numeral beyond the finite numbers. What follows such an obstacle does not
matter, and the fault tells where it is.

## Main definitions

* `Criteria.Quoted.Closes` — texts in which a closing quotation mark follows.
* `Criteria.Token.Stray` — characters that no token starts with.
* `Criteria.Token.Obstacle` — what stops the splitting of a text, and its fault.

## Main results

* `Criteria.Quoted.readBody?_eq_some_iff` — what is read up to a closing mark.
* `Criteria.lexeme?_eq_none_iff` — no piece starts with a stray character, and one with any other.
* `Criteria.Token.ofWord_eq_error_iff` — the words that are refused.
* `Criteria.lexeme?_of_append` — a piece is the same in a text that ends behind it.
* `Criteria.Token.scan_eq_error_iff` — a text is refused if and only if there is an obstacle.
* `Criteria.Token.stops_at_first_obstacle` — where and why the splitting of a text stops.
-/

set_option autoImplicit false
set_option relaxedAutoImplicit false

namespace Criteria

variable {c : Char} {text rest : List Char} {width : Nat}

/-! ## Closing marks -/

namespace Quoted

variable {mark : Char} {body content : List Char}

/-- A closing mark follows in a text: one in front of which every backslash protects the character
behind it, and which none of them protects. -/
def Closes (mark : Char) (text : List Char) : Prop :=
  ∃ body content rest, text = body ++ mark :: rest ∧ Protects mark body content

/-- What stands in front of a closing mark is read up to it. -/
theorem readBody?_of_protects (hmark : mark ≠ '\\') (h : Protects mark body content)
    (rest : List Char) :
    readBody? mark (body ++ mark :: rest) = some (content, body.length + 1) := by
  induction h with
  | nil => rw [List.nil_append, readBody?_cons hmark, if_pos rfl]; rfl
  | pair h ih => rw [List.cons_append, List.cons_append, readBody?, ih]; rfl
  | plain hne hslash h ih => rw [List.cons_append, readBody?_cons hslash, if_neg hne, ih]; rfl

/-- **What is read up to a closing mark is what stands in front of it.** -/
theorem readBody?_eq_some_iff (hmark : mark ≠ '\\') :
    readBody? mark text = some (content, width) ↔ ∃ body rest, text = body ++ mark :: rest ∧
      width = body.length + 1 ∧ Protects mark body content := by
  constructor
  · exact exists_body
  · rintro ⟨body, rest, rfl, rfl, h⟩
    exact readBody?_of_protects hmark h rest

/-- Nothing is read if no closing mark follows. -/
theorem readBody?_eq_none_iff (hmark : mark ≠ '\\') :
    readBody? mark text = none ↔ ¬Closes mark text := by
  constructor
  · rintro h ⟨body, content, rest, rfl, hbody⟩
    rw [readBody?_of_protects hmark hbody] at h
    cases h
  · intro h
    by_contra hne
    obtain ⟨⟨content, width⟩, hread⟩ := Option.ne_none_iff_exists'.mp hne
    obtain ⟨body, rest, htext, -, hbody⟩ := (readBody?_eq_some_iff hmark).mp hread
    exact h ⟨body, content, rest, htext, hbody⟩

end Quoted

/-! ## Stray characters -/

namespace Token

/-- The characters that brackets, comparators and quoted texts start with. -/
def marks : List Char := ['(', ')', '<', '>', '=', '!', '"', '\'']

/-- No token starts with a character in front of `rest`: it is a quotation mark that is not closed,
an exclamation mark without an equality sign, or stands in no token outside quotation marks. -/
inductive Stray (c : Char) (rest : List Char) : Prop where
  /-- A quotation mark without a closing one. -/
  | unclosed (hmark : c = '"' ∨ c = '\'') (h : ¬Quoted.Closes c rest)
  /-- An exclamation mark that is no comparator. -/
  | exclamation (hc : c = '!') (h : rest.head? ≠ some '=')
  /-- A character that is no part of any token by itself. -/
  | foreign (hmarks : c ∉ marks) (hword : isWordChar c = false) (hblank : isBlank c = false)

/-- The marks of tokens stand in no word and are not blank. -/
theorem forall_mem_marks : ∀ c ∈ marks, isWordChar c = false ∧ isBlank c = false := by
  have hall : marks.all (fun c => !isWordChar c && !isBlank c) = true := by decide
  intro c hc
  simpa using List.all_eq_true.mp hall c hc

namespace Stray

/-- A stray character that tokens may start with is a quotation mark or an exclamation mark. -/
theorem of_mem_marks (h : Stray c rest) (hmarks : c ∈ marks) : c = '"' ∨ c = '\'' ∨ c = '!' := by
  cases h with
  | unclosed hmark => exact hmark.elim .inl fun h => .inr (.inl h)
  | exclamation hc => exact .inr (.inr hc)
  | foreign hnot => exact absurd hmarks hnot

/-- A stray character stands in no word and is not blank. -/
theorem not_word_not_blank (h : Stray c rest) : isWordChar c = false ∧ isBlank c = false := by
  cases h with
  | unclosed hmark =>
    apply forall_mem_marks
    rcases hmark with rfl | rfl <;> decide
  | exclamation hc =>
    apply forall_mem_marks
    rw [hc]
    decide
  | foreign _ hword hblank => exact ⟨hword, hblank⟩

end Stray

end Token

/-- A comparator starts with a sign of comparison, but not with an exclamation mark alone. -/
theorem comparatorLexeme?_eq_none_iff : comparatorLexeme? c rest = none ↔
    c ∉ ['<', '>', '='] ∧ (c = '!' → rest.head? ≠ some '=') := by
  unfold comparatorLexeme?
  split
  case h_7 hgt hlt heq _ _ hne =>
    refine iff_of_true rfl ⟨?_, fun hc hhead => ?_⟩
    · simp only [List.mem_cons, List.not_mem_nil, or_false, not_or]
      exact ⟨hlt, hgt, heq⟩
    · obtain ⟨tail, htail⟩ := List.head?_eq_some_iff.mp hhead
      exact hne tail hc htail
  all_goals simp

open Token in
/-- **No piece starts with a stray character, and one starts with any other** that is not blank. -/
theorem lexeme?_eq_none_iff (hblank : isBlank c = false) :
    lexeme? c rest = none ↔ Stray c rest := by
  by_cases hbracket : c = '(' ∨ c = ')'
  · have hnot : ¬Stray c rest := by
      intro h
      rcases hbracket with rfl | rfl
      · exact absurd (h.of_mem_marks (by decide)) (by decide)
      · exact absurd (h.of_mem_marks (by decide)) (by decide)
    refine iff_of_false ?_ hnot
    rcases hbracket with rfl | rfl
    · exact Option.some_ne_none _
    · exact Option.some_ne_none _
  obtain ⟨hopening, hclosing⟩ := not_or.mp hbracket
  rw [lexeme?, if_neg hopening, if_neg hclosing]
  by_cases hmark : c = '"' ∨ c = '\''
  · have hslash : c ≠ '\\' := by
      rcases hmark with rfl | rfl <;> decide
    rw [if_pos hmark, Option.map_eq_none_iff, Quoted.readBody?_eq_none_iff hslash]
    refine ⟨.unclosed hmark, fun h => ?_⟩
    cases h with
    | unclosed _ h => exact h
    | exclamation hc => rcases hmark with rfl | rfl <;> cases hc
    | foreign hmarks => rcases hmark with rfl | rfl <;> exact absurd (by decide) hmarks
  rw [if_neg hmark]
  by_cases hword : isWordChar c = true
  · rw [if_pos hword]
    refine iff_of_false (Option.some_ne_none _) fun h => ?_
    rw [h.not_word_not_blank.1] at hword
    cases hword
  rw [if_neg hword, Option.map_eq_none_iff, comparatorLexeme?_eq_none_iff]
  constructor
  · rintro ⟨hsigns, hexclamation⟩
    by_cases hc : c = '!'
    · exact .exclamation hc (hexclamation hc)
    · refine .foreign ?_ (Bool.eq_false_iff.mpr hword) hblank
      simp only [marks, List.mem_cons, List.not_mem_nil, or_false] at hsigns ⊢
      tauto
  · intro h
    cases h with
    | unclosed h => exact absurd h hmark
    | exclamation hc h => exact ⟨by rw [hc]; decide, fun _ => h⟩
    | foreign hmarks =>
      refine ⟨fun hsigns => hmarks ?_, fun hc => absurd ?_ hmarks⟩
      · simp only [marks, List.mem_cons, List.not_mem_nil, or_false] at hsigns ⊢
        tauto
      · rw [hc]
        decide

/-! ## Pieces in front of others -/

/-- A comparator is the same in a text that ends behind it. -/
theorem comparatorLexeme?_of_append {symbol : String} (hle : width ≤ text.length)
    (h : comparatorLexeme? c (text ++ rest) = some (symbol, width)) :
    comparatorLexeme? c text = some (symbol, width) := by
  -- A text that is not empty starts with an equality sign if and only if it does with `rest`
  -- behind it.
  have hstart : ∀ {tail}, text ++ rest = '=' :: tail → 0 < text.length →
      ∃ tail, text = '=' :: tail := by
    intro tail htext hpos
    cases text with
    | nil => exact absurd hpos (Nat.lt_irrefl 0)
    | cons d text => exact ⟨text, by rw [(List.cons.inj htext).1]⟩
  have hlone : (∀ tail, text ++ rest = '=' :: tail → False) →
      ∀ tail, text = '=' :: tail → False := by
    rintro hlone tail rfl
    exact hlone (tail ++ rest) rfl
  unfold comparatorLexeme? at h
  split at h
  case h_7 => cases h
  all_goals obtain ⟨rfl, rfl⟩ := Prod.mk.inj (Option.some.inj h)
  case h_1 tail htext | h_2 tail htext | h_3 tail htext =>
    obtain ⟨tail, rfl⟩ := hstart htext hle
    rfl
  case h_4 hnot => exact comparatorLexeme?.eq_4 _ (hlone hnot)
  case h_5 hnot => exact comparatorLexeme?.eq_5 _ (hlone hnot)
  case h_6 => exact comparatorLexeme?.eq_6 _

/-- A quoted text is the same in a text that ends behind it. -/
theorem Quoted.readBody?_of_append {mark : Char} {content : List Char} (hmark : mark ≠ '\\')
    (hle : width ≤ text.length) (h : readBody? mark (text ++ rest) = some (content, width)) :
    readBody? mark text = some (content, width) := by
  obtain ⟨body, tail, htext, rfl, hbody⟩ := exists_body h
  rcases List.append_eq_append_iff.mp htext with ⟨more, rfl, -⟩ | ⟨more, rfl, hmore⟩
  · rw [List.length_append] at hle
    omega
  · cases more with
    | nil =>
      rw [List.append_nil] at hle
      omega
    | cons d more =>
      obtain rfl := (List.cons.inj hmore).1
      exact readBody?_of_protects hmark hbody more

/-- The first word of a text is the same in a text that ends behind it. -/
theorem takeWhile_of_append {p : Char → Bool}
    (hle : ((text ++ rest).takeWhile p).length ≤ text.length) :
    (text ++ rest).takeWhile p = text.takeWhile p := by
  rw [List.takeWhile_append] at hle ⊢
  split at hle
  · next hall =>
    rw [List.length_append] at hle
    have hnil : rest.takeWhile p = [] := List.eq_nil_of_length_eq_zero (by omega)
    rw [if_pos hall, hnil, List.append_nil]
    exact ((List.takeWhile_prefix p).eq_of_length hall).symm
  · next hall => rw [if_neg hall]

open Token in
/-- **A piece is the same in a text that ends behind it.** -/
theorem lexeme?_of_append {lexeme : Lexeme} (hle : width ≤ text.length)
    (h : lexeme? c (text ++ rest) = some (lexeme, width)) :
    lexeme? c text = some (lexeme, width) := by
  unfold lexeme? at h ⊢
  split_ifs at h ⊢ with hopening hclosing hmark hword
  · exact h
  · exact h
  · have hslash : c ≠ '\\' := by
      rcases hmark with rfl | rfl <;> decide
    obtain ⟨⟨content, count⟩, hread, hpair⟩ := Option.map_eq_some_iff.1 h
    obtain ⟨rfl, rfl⟩ := Prod.mk.inj hpair
    rw [Quoted.readBody?_of_append hslash hle hread]
    rfl
  · obtain ⟨rfl, rfl⟩ := Prod.mk.inj (Option.some.inj h)
    rw [takeWhile_of_append hle]
  · obtain ⟨⟨symbol, count⟩, hread, hpair⟩ := Option.map_eq_some_iff.1 h
    obtain ⟨rfl, rfl⟩ := Prod.mk.inj hpair
    rw [comparatorLexeme?_of_append hle hread]
    rfl

namespace Token

variable {before front back : List Char} {offset stop : Nat} {fault : Fault}

/-! ## Obstacles -/

/-- **The words that are refused** are numerals beyond the finite numbers. -/
theorem ofWord_eq_error_iff {word : List Char} : ofWord word offset stop = .error fault ↔
    ∃ n : Numeral, numeral? word = some n ∧ Numeral.finiteBound ≤ |n.worth| ∧
      fault = .unexpected s!"'{String.ofList word}'" "有限范围内的数值" offset := by
  have hinfinite : ∀ n : Numeral, Numeral.finiteBound ≤ |n.worth| ↔ ¬n.number.isFinite = true := by
    intro n
    rw [Numeral.isFinite_number_iff, not_lt]
  constructor
  · intro h
    cases hnumeral : numeral? word with
    | none =>
      unfold ofWord at h
      dsimp only at h
      rw [hnumeral] at h
      split_ifs at h
    | some n =>
      rw [ofWord_eq_of_numeral? offset stop hnumeral] at h
      split_ifs at h with hfinite
      exact ⟨n, rfl, (hinfinite n).mpr hfinite, (Except.error.inj h).symm⟩
  · rintro ⟨n, hnumeral, hbeyond, rfl⟩
    rw [ofWord_eq_of_numeral? offset stop hnumeral, if_neg ((hinfinite n).mp hbeyond)]

/-- What stops the splitting of a text where it starts, `offset` characters behind the start of the
whole text, and the fault: a stray character, or a word that is a numeral beyond the finite
numbers. -/
inductive Obstacle (offset : Nat) : List Char → Fault → Prop where
  /-- A character that no token starts with. -/
  | stray {c : Char} {rest : List Char} (h : Stray c rest) :
      Obstacle offset (c :: rest) (.unrecognized c offset)
  /-- A word that is a numeral of no finite number. -/
  | numeral {text : List Char} {n : Numeral} (h : numeral? (text.takeWhile isWordChar) = some n)
      (hbeyond : Numeral.finiteBound ≤ |n.worth|) :
      Obstacle offset text
        (.unexpected s!"'{String.ofList (text.takeWhile isWordChar)}'" "有限范围内的数值" offset)

/-- A word that is a numeral is not empty. -/
theorem exists_cons_of_numeral? {n : Numeral}
    (h : numeral? (text.takeWhile isWordChar) = some n) :
    ∃ c rest, text = c :: rest ∧ isWordChar c = true ∧
      text.takeWhile isWordChar = c :: rest.takeWhile isWordChar := by
  cases text with
  | nil => cases h
  | cons c rest =>
    by_cases hword : isWordChar c = true
    · exact ⟨c, rest, rfl, hword, List.takeWhile_cons_of_pos hword⟩
    · rw [List.takeWhile_cons_of_neg hword] at h
      cases h

namespace Obstacle

/-- An obstacle does not start with an equality sign, which starts a token. -/
theorem head?_ne (h : Obstacle offset text fault) : text.head? ≠ some '=' := by
  cases h with
  | @stray c rest h =>
    intro hc
    obtain rfl := Option.some.inj hc
    exact absurd (h.of_mem_marks (by decide)) (by decide)
  | numeral h hbeyond =>
    obtain ⟨c, rest, rfl, hword, -⟩ := exists_cons_of_numeral? h
    intro hc
    obtain rfl := Option.some.inj hc
    exact absurd hword (by decide)

/-- **A text that starts with an obstacle is refused.** -/
theorem scanFrom_eq (h : Obstacle offset text fault) :
    scanFrom 0 offset text = .error fault := by
  cases h with
  | stray h =>
    obtain ⟨-, hblank⟩ := h.not_word_not_blank
    rw [scanFrom, hblank, (lexeme?_eq_none_iff hblank).mpr h]
    rfl
  | @numeral _ n h hbeyond =>
    obtain ⟨c, rest, rfl, hword, htake⟩ := exists_cons_of_numeral? h
    rw [scanFrom, isBlank_of_isWordChar hword, lexeme?_of_isWordChar hword]
    dsimp only [ofLexeme]
    rw [← htake, ofWord_eq_error_iff.mpr ⟨n, h, hbeyond, rfl⟩]
    rfl

end Obstacle

/-- A piece that is refused is a numeral beyond the finite numbers. -/
theorem obstacle_of_ofLexeme {lexeme : Lexeme} (hlexeme : lexeme? c rest = some (lexeme, width))
    (h : ofLexeme lexeme offset stop = .error fault) : Obstacle offset (c :: rest) fault := by
  cases lexeme with
  | opening | closing | comparator | quoted => cases h
  | word word =>
    have hword := isWordChar_of_lexeme? hlexeme
    rw [lexeme?_of_isWordChar hword] at hlexeme
    obtain ⟨hpiece, -⟩ := Prod.mk.inj (Option.some.inj hlexeme)
    have htake : (c :: rest).takeWhile isWordChar = word :=
      (List.takeWhile_cons_of_pos hword).trans (Lexeme.word.inj hpiece)
    obtain ⟨n, hnumeral, hbeyond, rfl⟩ := ofWord_eq_error_iff.mp h
    rw [← htake] at hnumeral ⊢
    exact .numeral hnumeral hbeyond

/-- Where a text is refused: behind a blank, at an obstacle that it starts with, or behind the token
that it starts with. -/
theorem scanFrom_cons_eq_error (h : scanFrom 0 offset (c :: rest) = .error fault) :
    (isBlank c = true ∧ scanFrom 0 (offset + 1) rest = .error fault) ∨
      Obstacle offset (c :: rest) fault ∨
      (isBlank c = false ∧ ∃ lexeme width token, lexeme? c rest = some (lexeme, width) ∧
        ofLexeme lexeme offset (offset + 1 + width) = .ok token ∧
          scanFrom width (offset + 1) rest = .error fault) := by
  rw [scanFrom] at h
  cases hblank : isBlank c with
  | true => exact .inl ⟨rfl, by rwa [hblank] at h⟩
  | false =>
    rw [hblank] at h
    refine .inr ?_
    cases hlexeme : lexeme? c rest with
    | none =>
      rw [hlexeme] at h
      obtain rfl := Except.error.inj h
      exact .inl (.stray ((lexeme?_eq_none_iff hblank).mp hlexeme))
    | some piece =>
      obtain ⟨lexeme, width⟩ := piece
      rw [hlexeme] at h
      dsimp only at h
      cases htoken : ofLexeme lexeme offset (offset + 1 + width) with
      | error fault' =>
        rw [htoken] at h
        obtain rfl := Except.error.inj h
        exact .inl (obstacle_of_ofLexeme hlexeme htoken)
      | ok token =>
        rw [htoken] at h
        refine .inr ⟨rfl, lexeme, width, token, rfl, htoken, ?_⟩
        cases hrest : scanFrom width (offset + 1) rest with
        | error fault' =>
          rw [hrest] at h
          exact congrArg Except.error (Except.error.inj h)
        | ok tokens =>
          rw [hrest] at h
          cases h

/-- **A text is split up to its first obstacle.**

**Proof sketch.** Induction on the length of the text. A token in front of the obstacle is the same
if the text ends behind it (`lexeme?_of_append`), and no word goes on behind it. -/
theorem exists_obstacle (hbefore : Unjoined before rest)
    (h : scanFrom 0 before.length rest = .error fault) : ∃ front back tokens,
      rest = front ++ back ∧ scanFrom 0 before.length front = .ok tokens ∧
        Unjoined (before ++ front) back ∧ Obstacle (before.length + front.length) back fault := by
  induction hn : rest.length using Nat.strong_induction_on generalizing before rest with
  | _ n ih =>
  subst hn
  cases rest with
  | nil => cases h
  | cons c rest =>
    rcases scanFrom_cons_eq_error h with ⟨hblank, hrest⟩ | hobstacle |
      ⟨hblank, lexeme, width, token, hlexeme, htoken, hrest⟩
    · have hlength : (before ++ [c]).length = before.length + 1 := List.length_append
      rw [← hlength] at hrest
      obtain ⟨front, back, tokens, rfl, hfront, hjoin, hobstacle⟩ :=
        ih rest.length (by simp) (unjoined_of_last (isWordChar_of_isBlank hblank)) hrest rfl
      refine ⟨c :: front, back, tokens, rfl, ?_, ?_, ?_⟩
      · rwa [scanFrom, if_pos hblank, ← hlength]
      · rwa [List.append_assoc] at hjoin
      · rwa [← List.length_append, List.append_assoc, List.length_append] at hobstacle
    · exact ⟨[], c :: rest, [], rfl, rfl, by rwa [List.append_nil], hobstacle⟩
    · obtain ⟨more, after, rfl, rfl, -, -, hreproduces⟩ := exists_span hbefore hlexeme htoken
      have hshorter : after.length < (c :: (more ++ after)).length := by
        rw [List.length_cons, List.length_append]
        omega
      rw [scanFrom_behind] at hrest
      obtain ⟨front, back, tokens, rfl, hfront, hjoin, hobstacle⟩ :=
        ih after.length hshorter (hreproduces.unjoined (List.cons_ne_nil _ _)) hrest rfl
      refine ⟨c :: (more ++ front), back, token :: tokens, by simp, ?_, ?_, ?_⟩
      · have hkeeps : lexeme? c (more ++ front) = some (lexeme, more.length) := by
          rw [← List.append_assoc] at hlexeme
          exact lexeme?_of_append (by simp) hlexeme
        rw [scanFrom_cons_of_lexeme? hblank hkeeps htoken, scanFrom_behind, hfront]
        rfl
      · rwa [List.append_assoc] at hjoin
      · rwa [← List.length_append, List.append_assoc, List.length_append] at hobstacle

/-- **An obstacle stops the splitting of a text** if what stands in front of it can be split and no
word goes on to it. -/
theorem scan_of_obstacle {tokens : List Token} (hbefore : scan before = .ok tokens)
    (hjoin : Unjoined before rest) (h : Obstacle before.length rest fault) :
    scan (before ++ rest) = .error fault := by
  have hscan := scanFrom_append_unjoined hjoin h.head?_ne (Nat.zero_le _) hbefore
  rw [Nat.zero_add, h.scanFrom_eq] at hscan
  exact hscan

/-- **A text is refused if and only if there is an obstacle** behind characters that can be
split. -/
theorem scan_eq_error_iff : scan text = .error fault ↔ ∃ before rest tokens,
    text = before ++ rest ∧ scan before = .ok tokens ∧ Unjoined before rest ∧
      Obstacle before.length rest fault := by
  constructor
  · intro h
    have hstart : Unjoined [] text := fun _ hc => by cases hc
    obtain ⟨front, back, tokens, rfl, hfront, hjoin, hobstacle⟩ := exists_obstacle hstart h
    rw [List.length_nil, Nat.zero_add] at hobstacle
    exact ⟨front, back, tokens, rfl, hfront, hjoin, hobstacle⟩
  · rintro ⟨before, rest, tokens, rfl, hbefore, hjoin, h⟩
    exact scan_of_obstacle hbefore hjoin h

/-- What stands in front of an obstacle, and the obstacle, by its place. -/
theorem exists_obstacle_at (h : scan text = .error fault) : ∃ offset,
    (∃ tokens, scan (text.take offset) = .ok tokens) ∧
      Unjoined (text.take offset) (text.drop offset) ∧
        Obstacle offset (text.drop offset) fault := by
  obtain ⟨before, rest, tokens, rfl, hbefore, hjoin, hobstacle⟩ := scan_eq_error_iff.mp h
  refine ⟨before.length, ?_⟩
  rw [List.take_left, List.drop_left]
  exact ⟨⟨tokens, hbefore⟩, hjoin, hobstacle⟩

/-- **The splitting of a text stops where and only where it must.**

1. If a character is not recognized, then what stands in front of it can be split; it stands where
the fault says and is not blank; and no token starts with it: it is a quotation mark that nothing
closes, an exclamation mark without an equality sign, or a character that starts no token at all.
2. If a word is refused, then what stands in front of it can be split; the fault names the whole
word that starts where it says; and that word is a numeral that comes to infinity, being worth half
a step more than the largest finite number or still more.
3. If a text can be split and is empty or ends with a blank, then such a character or word behind it
stops the splitting, with that fault.

**Proof sketch.** The tokens in front of an obstacle are the same if the text ends in front of it
(`exists_obstacle`), and if it does not (`scanFrom_append_unjoined`). -/
theorem stops_at_first_obstacle :
    (∀ text c offset, scan text = .error (.unrecognized c offset) →
      (∃ tokens, scan (text.take offset) = .ok tokens) ∧ text[offset]? = some c ∧
        isBlank c = false ∧ Stray c (text.drop (offset + 1))) ∧
    (∀ text found expected offset, scan text = .error (.unexpected found expected offset) →
      (∃ tokens, scan (text.take offset) = .ok tokens) ∧
        (∀ d ∈ (text.take offset).getLast?, isWordChar d = false) ∧
        ∃ word n, (text.drop offset).takeWhile isWordChar = word ∧
          found = s!"'{String.ofList word}'" ∧ expected = "有限范围内的数值" ∧
          numeral? word = some n ∧ Numeral.finiteBound ≤ |n.worth|) ∧
    (∀ before rest tokens fault, scan before = .ok tokens →
      (∀ d ∈ before.getLast?, isBlank d = true) → Obstacle before.length rest fault →
        scan (before ++ rest) = .error fault) := by
  refine ⟨fun text c offset h => ?_, fun text found expected offset h => ?_,
    fun before rest tokens fault hbefore hlast h => ?_⟩
  · obtain ⟨place, htokens, -, hobstacle⟩ := exists_obstacle_at h
    generalize hback : text.drop place = back at hobstacle
    cases hobstacle with
    | @stray _ rest hstray =>
      have hrest : text.drop (offset + 1) = rest := by
        rw [← List.drop_drop, hback, List.drop_succ_cons, List.drop_zero]
      refine ⟨htokens, ?_, hstray.not_word_not_blank.2, hrest ▸ hstray⟩
      rw [← List.head?_drop, hback, List.head?_cons]
  · obtain ⟨place, htokens, hjoin, hobstacle⟩ := exists_obstacle_at h
    generalize hback : text.drop place = back at hobstacle hjoin
    cases hobstacle with
    | @numeral _ n hnumeral hbeyond =>
      refine ⟨htokens, ?_, _, n, by rw [hback], rfl, rfl, hnumeral, hbeyond⟩
      obtain ⟨c, rest, rfl, hword, -⟩ := exists_cons_of_numeral? hnumeral
      exact hjoin.isWordChar_of_mem_getLast? hword
  · refine scan_of_obstacle hbefore (fun d hd _ _ hword => ?_) h
    rw [isWordChar_of_isBlank (hlast d hd)] at hword
    cases hword

/-- A quotation mark that nothing closes, as a backslash protects the last character; a numeral that
comes to infinity, in front of a bracket; and an exclamation mark behind a blank. -/
theorem stops_at_first_obstacle_unclosed :
    (scan "s='it\\'".toList = .error (.unrecognized '\'' 2) ∧
      ¬Quoted.Closes '\'' "it\\'".toList) ∧
    (scan "n>-1e400)".toList = .error (.unexpected "'-1e400'" "有限范围内的数值" 2) ∧
      (∃ tokens, scan "n>".toList = .ok tokens) ∧
      ∃ n, numeral? "-1e400".toList = some n ∧ Numeral.finiteBound ≤ |n.worth|) ∧
    ((∃ tokens, scan "n ".toList = .ok tokens) ∧
      scan "n ! 1".toList = .error (.unrecognized '!' 2)) := by
  obtain ⟨hunrecognized, hunexpected, hstops⟩ := stops_at_first_obstacle
  refine ⟨?_, ?_, ?_⟩
  · have hscan : scan "s='it\\'".toList = .error (.unrecognized '\'' 2) := by decide +kernel
    refine ⟨hscan, ?_⟩
    obtain ⟨-, -, -, hstray⟩ := hunrecognized _ _ _ hscan
    cases hstray with
    | unclosed _ h => exact h
    | exclamation hc => exact absurd hc (by decide)
    | foreign hmarks => exact absurd (by decide) hmarks
  · have hscan : scan "n>-1e400)".toList =
        .error (.unexpected "'-1e400'" "有限范围内的数值" 2) := by decide +kernel
    obtain ⟨htokens, -, word, n, hword, -, -, hnumeral, hbeyond⟩ := hunexpected _ _ _ _ hscan
    have hdrop : ("n>-1e400)".toList.drop 2).takeWhile isWordChar = "-1e400".toList := by decide
    obtain rfl : "-1e400".toList = word := hdrop.symm.trans hword
    exact ⟨hscan, htokens, n, hnumeral, hbeyond⟩
  · have hscan : scan "n ".toList = .ok [⟨.identifier, "n", 0, 1, none⟩] := rfl
    have hlast : ∀ d ∈ "n ".toList.getLast?, isBlank d = true := by
      rintro d ⟨⟩
      decide
    have hstray : Stray '!' " 1".toList := .exclamation rfl (by decide)
    exact ⟨⟨_, hscan⟩, hstops _ _ _ _ hscan hlast (.stray hstray)⟩

end Token

end Criteria

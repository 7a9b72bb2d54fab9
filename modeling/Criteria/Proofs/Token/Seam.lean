import Criteria.Token.Scan
import Mathlib.Tactic.SplitIfs

/-!
# Tokens and seams

How a text is split depends on nothing in front of it, offsets apart, and on what follows only
if that continues the last token.

## Main definitions

* `Criteria.Token.shift`, `Criteria.Fault.shift` — a token and a fault moved to the right.
* `Criteria.Token.Unjoined` — texts such that no word goes on from one to the other.
* `Criteria.Token.Parted` — texts that continue no token in front of them.

## Main results

* `Criteria.Token.scanFrom_cons_eq_ok_iff` — what one character contributes to the tokens.
* `Criteria.Token.scanFrom_add` — a text is split alike wherever it stands.
* `Criteria.Token.scanFrom_append_unjoined`, `Criteria.Token.scanFrom_append` — the tokens of a text
  with a seam are those of its parts.
* `Criteria.Token.scan_append_blank`, `Criteria.Token.scan_brackets` — texts with a blank between
  them, and a text in brackets.
-/

set_option autoImplicit false
set_option relaxedAutoImplicit false

namespace Criteria

/-! ## Moving tokens and faults -/

/-- A token moved to the right. -/
def Token.shift (distance : Nat) (token : Token) : Token :=
  { token with offset := token.offset + distance, stop := token.stop + distance }

/-- A fault of a text, moved to the right. -/
def Fault.shift (distance : Nat) : Fault → Fault
  | .unrecognized character offset => .unrecognized character (offset + distance)
  | .unexpected found expected offset => .unexpected found expected (offset + distance)
  | fault => fault

namespace Token

/-- What splitting a text ends with, moved to the right. -/
def shiftResult (distance : Nat) : Except Fault (List Token) → Except Fault (List Token)
  | .ok tokens => .ok (tokens.map (shift distance))
  | .error fault => .error (fault.shift distance)

/-- A word is the same token or fault wherever it stands. -/
theorem ofWord_add (distance : Nat) (word : List Char) (offset stop : Nat) :
    ofWord word (offset + distance) (stop + distance) =
      match ofWord word offset stop with
      | .ok token => .ok (token.shift distance)
      | .error fault => .error (fault.shift distance) := by
  unfold ofWord
  dsimp only
  split_ifs
  iterate 4 rfl
  cases numeral? word with
  | none => rfl
  | some numeral =>
    dsimp only
    split_ifs <;> rfl

/-- A piece of a text is the same token or fault wherever it stands. -/
theorem ofLexeme_add (distance : Nat) (lexeme : Lexeme) (offset stop : Nat) :
    ofLexeme lexeme (offset + distance) (stop + distance) =
      match ofLexeme lexeme offset stop with
      | .ok token => .ok (token.shift distance)
      | .error fault => .error (fault.shift distance) := by
  cases lexeme with
  | word word => exact ofWord_add distance word offset stop
  | opening | closing | comparator | quoted => rfl

/-- **A text is split alike wherever it stands.** -/
theorem scanFrom_add (distance skip offset : Nat) (text : List Char) :
    scanFrom skip (offset + distance) text =
      shiftResult distance (scanFrom skip offset text) := by
  induction text generalizing skip offset with
  | nil => cases skip <;> rfl
  | cons c rest ih =>
    have hnext : offset + distance + 1 = offset + 1 + distance := by omega
    cases skip with
    | succ skip => rw [scanFrom, scanFrom, hnext, ih]
    | zero =>
      rw [scanFrom, scanFrom, hnext, ih]
      split
      · rfl
      · cases lexeme? c rest with
        | none => rfl
        | some found =>
          obtain ⟨lexeme, width⟩ := found
          have hstop : offset + 1 + distance + width = offset + 1 + width + distance := by omega
          dsimp only
          rw [hstop, ofLexeme_add, ih]
          cases ofLexeme lexeme offset (offset + 1 + width) with
          | error fault => rfl
          | ok token => cases scanFrom width (offset + 1) rest <;> rfl

/-! ## One character -/

/-- What a character contributes to the tokens: nothing if it is blank, otherwise the token that
starts with it. -/
theorem scanFrom_cons_eq_ok_iff {offset : Nat} {c : Char} {rest : List Char}
    {tokens : List Token} : scanFrom 0 offset (c :: rest) = .ok tokens ↔
      (isBlank c = true ∧ scanFrom 0 (offset + 1) rest = .ok tokens) ∨
      (isBlank c = false ∧ ∃ lexeme width token tokens', lexeme? c rest = some (lexeme, width) ∧
        ofLexeme lexeme offset (offset + 1 + width) = .ok token ∧
          scanFrom width (offset + 1) rest = .ok tokens' ∧ tokens = token :: tokens') := by
  rw [scanFrom]
  cases isBlank c with
  | true => simp
  | false =>
    cases lexeme? c rest with
    | none => simp
    | some found =>
      obtain ⟨lexeme, width⟩ := found
      cases htoken : ofLexeme lexeme offset (offset + 1 + width) with
      | error fault => simp [htoken]
      | ok token =>
        cases hrest : scanFrom width (offset + 1) rest with
        | error fault => simp [htoken, hrest, Except.map]
        | ok tokens' => simp [htoken, hrest, Except.map, and_assoc, @eq_comm _ tokens]

/-- The tokens of a text that starts with a certain piece. -/
theorem scanFrom_cons_of_lexeme? {offset width : Nat} {c : Char} {rest : List Char}
    {lexeme : Lexeme} {token : Token} (hblank : isBlank c = false)
    (hlexeme : lexeme? c rest = some (lexeme, width))
    (htoken : ofLexeme lexeme offset (offset + 1 + width) = .ok token) :
    scanFrom 0 offset (c :: rest) = (scanFrom width (offset + 1) rest).map (token :: ·) := by
  rw [scanFrom, hblank, hlexeme]
  dsimp only
  rw [htoken]
  rfl

/-- A text that is one piece is one token. -/
theorem scanFrom_eq_singleton (offset : Nat) {c : Char} {rest : List Char} {lexeme : Lexeme}
    {token : Token} (hblank : isBlank c = false)
    (hlexeme : lexeme? c rest = some (lexeme, rest.length))
    (htoken : ofLexeme lexeme offset (offset + 1 + rest.length) = .ok token) :
    scanFrom 0 offset (c :: rest) = .ok [token] := by
  rw [scanFrom_cons_of_lexeme? hblank hlexeme htoken, scanFrom_skip, List.drop_length]
  rfl

/-! ## Seams -/

/-- Two texts such that no word goes on from one to the other. -/
def Unjoined (before after : List Char) : Prop :=
  ∀ c ∈ before.getLast?, ∀ d ∈ after.head?, isWordChar c = true → isWordChar d = false

/-- A text that continues no token in front of it. -/
def Parted (rest : List Char) : Prop := ∀ c ∈ rest.head?, isWordChar c = false ∧ c ≠ '='

/-- No word goes on to a text that continues no token. -/
theorem Parted.unjoined {rest : List Char} (hrest : Parted rest) (text : List Char) :
    Unjoined text rest := fun _ _ d hd _ => (hrest d hd).1

/-- A text that continues no token does not start with an equality sign. -/
theorem Parted.head?_ne {rest : List Char} (hrest : Parted rest) : rest.head? ≠ some '=' :=
  fun h => (hrest '=' h).2 rfl

/-- No word goes on from the end of a text either. -/
theorem Unjoined.tail {c : Char} {text rest : List Char} (h : Unjoined (c :: text) rest) :
    Unjoined text rest := by
  cases text with
  | nil => exact fun _ hc => by cases hc
  | cons d text => rwa [Unjoined, List.getLast?_cons_cons] at h

/-- Behind a text that is all one word no word goes on. -/
theorem Unjoined.isWordChar_eq_false {c : Char} {text rest : List Char}
    (h : Unjoined (c :: text) rest) (hword : ∀ d ∈ c :: text, isWordChar d = true) :
    ∀ d ∈ rest.head?, isWordChar d = false := by
  have hne : c :: text ≠ [] := List.cons_ne_nil c text
  intro d hd
  exact h _ (List.getLast?_eq_some_getLast hne) d hd (hword _ (List.getLast_mem hne))

/-- A word that starts at a seam has not begun in front of it. -/
theorem Unjoined.isWordChar_of_mem_getLast? {c : Char} {text rest : List Char}
    (h : Unjoined text (c :: rest)) (hword : isWordChar c = true) :
    ∀ d ∈ text.getLast?, isWordChar d = false := by
  intro d hd
  refine Bool.eq_false_iff.mpr fun hend => ?_
  rw [h d hd c rfl hend] at hword
  cases hword

/-- What does not go on with an equality sign does not do so in front of a seam either. -/
theorem append_ne {text rest : List Char} (hsign : rest.head? ≠ some '=')
    (htext : ∀ tail, text ≠ '=' :: tail) : ∀ tail, text ++ rest ≠ '=' :: tail := by
  intro tail h
  cases text with
  | nil =>
    obtain rfl : rest = '=' :: tail := h
    exact hsign rfl
  | cons c text =>
    obtain rfl : c = '=' := (List.cons.inj h).1
    exact htext text rfl

end Token

variable {c : Char} {text rest : List Char} {width : Nat}

/-- A character other than a backslash is read as it stands. -/
theorem Quoted.readBody?_cons {mark : Char} (hc : c ≠ '\\') :
    readBody? mark (c :: text) = if c = mark then some ([], 1)
      else (readBody? mark text).map fun (body, width) => (c :: body, width + 1) :=
  readBody?.eq_4 mark c text (fun h => absurd h hc) fun _ _ h => absurd h hc

/-- What follows a quoted text does not change it, and the quoted text ends within its text. -/
theorem Quoted.readBody?_append {mark : Char} {content : List Char}
    (h : readBody? mark text = some (content, width)) :
    readBody? mark (text ++ rest) = some (content, width) ∧ width ≤ text.length := by
  fun_induction readBody? mark text generalizing content width with
  | case1 => cases h
  | case2 => cases h
  | case3 c text ih =>
    obtain ⟨⟨body, count⟩, hbody, hpair⟩ := Option.map_eq_some_iff.1 h
    obtain ⟨rfl, rfl⟩ := Prod.mk.inj hpair
    obtain ⟨hread, hle⟩ := ih hbody
    refine ⟨?_, Nat.succ_le_succ (Nat.succ_le_succ hle)⟩
    rw [List.cons_append, List.cons_append, readBody?, hread]
    rfl
  | case4 text hslash hprotects =>
    obtain ⟨rfl, rfl⟩ := Prod.mk.inj (Option.some.inj h)
    have hplain : mark ≠ '\\' := fun hmark => by
      cases text with
      | nil => exact hslash hmark rfl
      | cons d text => exact hprotects d text hmark rfl
    refine ⟨?_, Nat.succ_le_succ (Nat.zero_le _)⟩
    rw [List.cons_append, readBody?_cons hplain, if_pos rfl]
  | case5 c text hslash hprotects hmark ih =>
    obtain ⟨⟨body, count⟩, hbody, hpair⟩ := Option.map_eq_some_iff.1 h
    obtain ⟨rfl, rfl⟩ := Prod.mk.inj hpair
    obtain ⟨hread, hle⟩ := ih hbody
    have hplain : c ≠ '\\' := fun hc => by
      cases text with
      | nil => exact hslash hc rfl
      | cons d text => exact hprotects d text hc rfl
    refine ⟨?_, Nat.succ_le_succ hle⟩
    rw [List.cons_append, readBody?_cons hplain, if_neg hmark, hread]
    rfl

/-- What cannot continue a comparator does not change it, and the comparator ends within its
text. -/
theorem comparatorLexeme?_append {symbol : String} (hsign : rest.head? ≠ some '=')
    (h : comparatorLexeme? c text = some (symbol, width)) :
    comparatorLexeme? c (text ++ rest) = some (symbol, width) ∧ width ≤ text.length := by
  unfold comparatorLexeme? at h
  split at h
  case h_7 => cases h
  all_goals obtain ⟨rfl, rfl⟩ := Prod.mk.inj (Option.some.inj h)
  case h_1 | h_2 | h_3 => exact ⟨rfl, Nat.succ_le_succ (Nat.zero_le _)⟩
  case h_4 hlone =>
    exact ⟨comparatorLexeme?.eq_4 _ (Token.append_ne hsign hlone), Nat.zero_le _⟩
  case h_5 hlone =>
    exact ⟨comparatorLexeme?.eq_5 _ (Token.append_ne hsign hlone), Nat.zero_le _⟩
  case h_6 => exact ⟨comparatorLexeme?.eq_6 _, Nat.zero_le _⟩

/-- What cannot continue a word does not change it. -/
theorem takeWhile_isWordChar_append
    (h : (∀ d ∈ text, isWordChar d = true) → ∀ d ∈ rest.head?, isWordChar d = false) :
    (text ++ rest).takeWhile isWordChar = text.takeWhile isWordChar := by
  induction text with
  | nil =>
    cases rest with
    | nil => rfl
    | cons d rest => simp [h (by simp) d rfl]
  | cons d text ih =>
    rw [List.cons_append, List.takeWhile_cons, List.takeWhile_cons]
    split
    · next hd => rw [ih fun hword => h (List.forall_mem_cons.2 ⟨hd, hword⟩)]
    · rfl

/-- What cannot continue a piece of a text does not change it, and the piece ends within its
text. -/
theorem lexeme?_append {lexeme : Lexeme} (hjoin : Token.Unjoined (c :: text) rest)
    (hsign : rest.head? ≠ some '=') (h : lexeme? c text = some (lexeme, width)) :
    lexeme? c (text ++ rest) = some (lexeme, width) ∧ width ≤ text.length := by
  unfold lexeme? at h ⊢
  split_ifs at h ⊢ with _ _ _ hword
  · obtain ⟨rfl, rfl⟩ := Prod.mk.inj (Option.some.inj h)
    exact ⟨rfl, Nat.zero_le _⟩
  · obtain ⟨rfl, rfl⟩ := Prod.mk.inj (Option.some.inj h)
    exact ⟨rfl, Nat.zero_le _⟩
  · obtain ⟨⟨content, count⟩, hbody, hpair⟩ := Option.map_eq_some_iff.1 h
    obtain ⟨rfl, rfl⟩ := Prod.mk.inj hpair
    obtain ⟨hread, hle⟩ : Quoted.readBody? c (text ++ rest) = some (content, count) ∧
        count ≤ text.length := Quoted.readBody?_append hbody
    rw [hread]
    exact ⟨rfl, hle⟩
  · obtain ⟨rfl, rfl⟩ := Prod.mk.inj (Option.some.inj h)
    rw [takeWhile_isWordChar_append fun htext =>
      hjoin.isWordChar_eq_false (List.forall_mem_cons.2 ⟨hword, htext⟩)]
    exact ⟨rfl, (List.takeWhile_sublist isWordChar).length_le⟩
  · obtain ⟨⟨symbol, count⟩, hsymbol, hpair⟩ := Option.map_eq_some_iff.1 h
    obtain ⟨rfl, rfl⟩ := Prod.mk.inj hpair
    obtain ⟨hread, hle⟩ := comparatorLexeme?_append hsign hsymbol
    rw [hread]
    exact ⟨rfl, hle⟩

namespace Token

/-- **The tokens of a text with a seam are those of its parts.** No word goes on at the seam, and no
equality sign stands behind it, which could belong to a comparator.

**Proof sketch.** Induction on the first part. The characters of a token that has begun are
passed over, and a token that begins ends within the first part, so the seam comes after a whole
number of tokens and nothing behind it changes them (`lexeme?_append`). -/
theorem scanFrom_append_unjoined {skip offset : Nat} {tokens : List Token}
    (hjoin : Unjoined text rest) (hsign : rest.head? ≠ some '=') (hskip : skip ≤ text.length)
    (h : scanFrom skip offset text = .ok tokens) :
    scanFrom skip offset (text ++ rest) =
      (scanFrom 0 (offset + text.length) rest).map (tokens ++ ·) := by
  induction text generalizing skip offset tokens with
  | nil =>
    obtain rfl : skip = 0 := Nat.le_zero.1 hskip
    obtain rfl : tokens = [] := (Except.ok.inj h).symm
    change scanFrom 0 offset rest = (scanFrom 0 offset rest).map fun tokens => tokens
    cases scanFrom 0 offset rest <;> rfl
  | cons c text ih =>
    have hlength : offset + (c :: text).length = offset + 1 + text.length := by
      rw [List.length_cons]
      omega
    rw [hlength, List.cons_append]
    cases skip with
    | succ skip => exact ih hjoin.tail (Nat.le_of_succ_le_succ hskip) h
    | zero =>
      rcases scanFrom_cons_eq_ok_iff.1 h with ⟨hblank, htokens⟩ |
        ⟨hblank, lexeme, width, token, tokens', hlexeme, htoken, htokens, rfl⟩
      · rw [scanFrom, if_pos hblank]
        exact ih hjoin.tail (Nat.zero_le _) htokens
      · obtain ⟨hread, hle⟩ := lexeme?_append hjoin hsign hlexeme
        rw [scanFrom_cons_of_lexeme? hblank hread htoken, ih hjoin.tail hle htokens]
        cases scanFrom 0 (offset + 1 + text.length) rest <;> rfl

/-- The tokens of a text and of one that continues no token are those of both. -/
theorem scanFrom_append {skip offset : Nat} {tokens : List Token} (hrest : Parted rest)
    (hskip : skip ≤ text.length) (h : scanFrom skip offset text = .ok tokens) :
    scanFrom skip offset (text ++ rest) =
      (scanFrom 0 (offset + text.length) rest).map (tokens ++ ·) :=
  scanFrom_append_unjoined (hrest.unjoined text) hrest.head?_ne hskip h

/-! ## Texts put together -/

/-- A text that starts with neither a word character nor an equality sign is parted. -/
theorem parted_cons (hword : isWordChar c = false) (hc : c ≠ '=') : Parted (c :: rest) := by
  rintro d ⟨⟩
  exact ⟨hword, hc⟩

/-- A text behind others is split as it is alone, and its tokens are moved. -/
theorem scanFrom_of_scan {tokens : List Token} (h : scan text = .ok tokens) (offset : Nat) :
    scanFrom 0 offset text = .ok (tokens.map (shift offset)) := by
  have hadd := scanFrom_add offset 0 0 text
  unfold scan at h
  rwa [Nat.zero_add, h] at hadd

/-- Blanks move what follows them, and nothing else. -/
theorem scanFrom_gap {gap : List Char} (hgap : ∀ c ∈ gap, isBlank c = true) (offset : Nat)
    (rest : List Char) :
    scanFrom 0 offset (gap ++ rest) = scanFrom 0 (offset + gap.length) rest := by
  induction gap generalizing offset with
  | nil => rfl
  | cons c gap ih =>
    obtain ⟨hc, hmore⟩ := List.forall_mem_cons.1 hgap
    have hlength : offset + (c :: gap).length = offset + 1 + gap.length := by
      rw [List.length_cons]
      omega
    rw [List.cons_append, scanFrom, if_pos hc, ih hmore, hlength]

/-- Two texts with a blank between them are split on their own. -/
theorem scan_append_blank {tokens tokens' : List Token} (h : scan text = .ok tokens)
    (h' : scan rest = .ok tokens') :
    scan (text ++ ' ' :: rest) = .ok (tokens ++ tokens'.map (shift (text.length + 1))) := by
  have hparted : Parted (' ' :: rest) := parted_cons (by decide) (by decide)
  unfold scan
  rw [scanFrom_append hparted (Nat.zero_le _) h, scanFrom, if_pos (by decide), Nat.zero_add,
    scanFrom_of_scan h']
  rfl

/-- A text in brackets is split on its own, between the tokens of the brackets. -/
theorem scan_brackets {tokens : List Token} (h : scan text = .ok tokens) :
    ∃ opening closing : Token, opening.kind = .opening ∧ closing.kind = .closing ∧
      scan ('(' :: (text ++ [')'])) = .ok (opening :: (tokens.map (shift 1) ++ [closing])) := by
  have hparted : Parted [')'] := parted_cons (by decide) (by decide)
  refine ⟨⟨.opening, "(", 0, 1, none⟩,
    ⟨.closing, ")", 1 + text.length, 1 + text.length + 1, none⟩, rfl, rfl, ?_⟩
  have hinside := scanFrom_append hparted (Nat.zero_le _) (scanFrom_of_scan h 1)
  have hclosing : scanFrom 0 (1 + text.length) [')'] =
      .ok [⟨.closing, ")", 1 + text.length, 1 + text.length + 1, none⟩] := rfl
  rw [hclosing] at hinside
  unfold scan
  rw [scanFrom_cons_of_lexeme? (by decide) rfl rfl, hinside]
  rfl

end Token

end Criteria

import Criteria.Proofs.Token.Word

/-!
# The tokens of a text tile it

Between the tokens of a text stand blanks and nothing else, and what stands in the span of a token
says everything about the token.

## Main definitions

* `Criteria.Quoted.Protects` — what may stand between quotation marks, and the text it stands for.
* `Criteria.Token.Denotes` — the kind and the value that a word has.
* `Criteria.Token.Reproduces` — a token told by its span and the characters around it.
* `Criteria.Token.Tiles` — tokens that tile a text up to blanks.

## Main results

* `Criteria.Token.ofWord_eq_ok_iff` — a word is the token that it denotes.
* `Criteria.Token.tiles_of_scanFrom` — the tokens of a text tile it.
* `Criteria.Token.accounts_of_scan` — every character of a text belongs to one token or is blank.
-/

set_option autoImplicit false
set_option relaxedAutoImplicit false

namespace Criteria

/-! ## Between quotation marks -/

/-- What stands between two quotation marks, and the text it stands for: a backslash with any one
character behind it for that character, and others for themselves. -/
inductive Quoted.Protects (mark : Char) : (body content : List Char) → Prop where
  /-- Nothing. -/
  | nil : Protects mark [] []
  /-- A protected character. -/
  | pair {c : Char} {body content : List Char} (h : Protects mark body content) :
      Protects mark ('\\' :: c :: body) (c :: content)
  /-- A character as it is. -/
  | plain {c : Char} {body content : List Char} (hmark : c ≠ mark) (hslash : c ≠ '\\')
      (h : Protects mark body content) : Protects mark (c :: body) (c :: content)

/-- What is read up to a closing mark is what stands in front of that mark. -/
theorem Quoted.exists_body {mark : Char} {text content : List Char} {width : Nat}
    (h : readBody? mark text = some (content, width)) :
    ∃ body rest, text = body ++ mark :: rest ∧ width = body.length + 1 ∧
      Protects mark body content := by
  fun_induction readBody? mark text generalizing content width with
  | case1 => cases h
  | case2 => cases h
  | case3 c text ih =>
    obtain ⟨⟨content, count⟩, hread, hpair⟩ := Option.map_eq_some_iff.1 h
    obtain ⟨rfl, rfl⟩ := Prod.mk.inj hpair
    obtain ⟨body, rest, rfl, rfl, hbody⟩ := ih hread
    exact ⟨'\\' :: c :: body, rest, rfl, rfl, .pair hbody⟩
  | case4 text _ _ =>
    obtain ⟨rfl, rfl⟩ := Prod.mk.inj (Option.some.inj h)
    exact ⟨[], text, rfl, rfl, .nil⟩
  | case5 c text hslash hprotects hmark ih =>
    obtain ⟨⟨content, count⟩, hread, hpair⟩ := Option.map_eq_some_iff.1 h
    obtain ⟨rfl, rfl⟩ := Prod.mk.inj hpair
    have hplain : c ≠ '\\' := fun hc => by
      cases text with
      | nil => exact hslash hc rfl
      | cons d text => exact hprotects d text hc rfl
    obtain ⟨body, rest, rfl, rfl, hbody⟩ := ih hread
    exact ⟨c :: body, rest, rfl, rfl, .plain hmark hplain hbody⟩

namespace Token

/-! ## Words by their text alone -/

/-- The words that are no names. -/
def reservedWords : List String := ["AND", "OR", "true", "false"]

/-- The kind and the value that a word has: a connective, a truth value, a finite number, or a
name. -/
inductive Denotes (word : List Char) : TokenKind → Option Value → Prop where
  /-- The word for conjunction. -/
  | conj (h : String.ofList word = "AND") : Denotes word .conj none
  /-- The word for disjunction. -/
  | disj (h : String.ofList word = "OR") : Denotes word .disj none
  /-- The word for a truth value. -/
  | bool (b : Bool) (h : String.ofList word = Value.boolWord b) :
      Denotes word .literal (some (.bool b))
  /-- A numeral of a finite number. -/
  | number {numeral : Numeral} (h : numeral? word = some numeral)
      (hfinite : numeral.number.isFinite = true) :
      Denotes word .literal (some (.number numeral.number))
  /-- Any other word. -/
  | name (hreserved : String.ofList word ∉ reservedWords) (h : numeral? word = none) :
      Denotes word .identifier none

variable {word : List Char} {offset stop : Nat} {token : Token}

/-- **A word is the token that it denotes.** -/
theorem ofWord_eq_ok_iff : ofWord word offset stop = .ok token ↔
    ∃ kind value, Denotes word kind value ∧
      token = ⟨kind, String.ofList word, offset, stop, value⟩ := by
  constructor
  · intro h
    unfold ofWord at h
    dsimp only at h
    split_ifs at h with hconj hdisj htrue hfalse
    · exact ⟨_, _, .conj hconj, (Except.ok.inj h).symm⟩
    · exact ⟨_, _, .disj hdisj, (Except.ok.inj h).symm⟩
    · exact ⟨_, _, .bool true htrue, (Except.ok.inj h).symm⟩
    · exact ⟨_, _, .bool false hfalse, (Except.ok.inj h).symm⟩
    · split at h
      case h_1 hnumeral =>
        refine ⟨_, _, .name ?_ hnumeral, (Except.ok.inj h).symm⟩
        simp [reservedWords, hconj, hdisj, htrue, hfalse]
      case h_2 hnumeral =>
        split_ifs at h with hfinite
        exact ⟨_, _, .number hnumeral hfinite, (Except.ok.inj h).symm⟩
  · rintro ⟨kind, value, hdenotes, rfl⟩
    cases hdenotes with
    | conj h => rw [ofWord, h]; rfl
    | disj h => rw [ofWord, h]; rfl
    | bool b h => cases b <;> (rw [ofWord, h]; rfl)
    | number h hfinite => exact ofWord_of_numeral? offset stop h hfinite
    | name hreserved h =>
      simp only [reservedWords, List.mem_cons, List.not_mem_nil, or_false, not_or] at hreserved
      obtain ⟨hconj, hdisj, htrue, hfalse⟩ := hreserved
      rw [ofWord, if_neg hconj, if_neg hdisj, if_neg htrue, if_neg hfalse, h]

/-- A word denotes one kind and one value. -/
theorem Denotes.unique {kind kind' : TokenKind} {value value' : Option Value}
    (h : Denotes word kind value) (h' : Denotes word kind' value') :
    kind' = kind ∧ value' = value := by
  have hread : ofWord word 0 0 = .ok ⟨kind, String.ofList word, 0, 0, value⟩ :=
    ofWord_eq_ok_iff.2 ⟨_, _, h, rfl⟩
  rw [ofWord_eq_ok_iff.2 ⟨_, _, h', rfl⟩] at hread
  injection hread with hread
  injection hread with hkind _ _ _ hvalue
  exact ⟨hkind, hvalue⟩

/-! ## Tokens told by their spans -/

/-- The brackets and the symbols of the comparators, each with the kind of its token. -/
def symbols : List (TokenKind × String) :=
  [(.opening, "("), (.closing, ")")] ++ Comparator.all.map (.comparator, ·.symbol)

/-- What a token says about the characters it was read from, which stand between others: they are a
symbol, or a text in quotation marks, or a word that goes on on neither side. -/
inductive Reproduces (before span after : List Char) (token : Token) : Prop where
  /-- A bracket or a comparator. -/
  | symbol (hkind : (token.kind, token.text) ∈ symbols) (hvalue : token.value = none)
      (hspan : span = token.text.toList)
  /-- A text in quotation marks. -/
  | quoted {mark : Char} {body : List Char} (hmark : mark = '"' ∨ mark = '\'')
      (hspan : span = mark :: (body ++ [mark]))
      (hbody : Quoted.Protects mark body token.text.toList)
      (hkind : token.kind = .literal) (hvalue : token.value = some (.string token.text))
  /-- A word. -/
  | word (hspan : span = token.text.toList) (hword : ∀ c ∈ span, isWordChar c = true)
      (hbefore : ∀ c ∈ before.getLast?, isWordChar c = false)
      (hafter : ∀ c ∈ after.head?, isWordChar c = false)
      (hdenotes : ∀ kind value, Denotes span kind value ↔ kind = token.kind ∧ value = token.value)

variable {before span after rest : List Char} {c : Char} {lexeme : Lexeme} {width : Nat}

/-- No word goes on behind a character that stands in no word. -/
theorem unjoined_of_last (hc : isWordChar c = false) :
    Unjoined (before ++ [c]) after := by
  intro d hd _ _ hword
  rw [List.getLast?_concat] at hd
  obtain rfl := Option.some.inj hd
  rw [hc] at hword
  cases hword

/-- No word goes on behind a token. -/
theorem Reproduces.unjoined (h : token.Reproduces before span after) (hspan : span ≠ []) :
    Unjoined (before ++ span) after := by
  cases h with
  | symbol hkind hvalue htext =>
    have hsymbols : ∀ entry ∈ symbols, entry.2.toList.all (fun c => !isWordChar c) = true := by
      decide
    obtain ⟨front, last, rfl⟩ := (List.eq_nil_or_concat span).resolve_left hspan
    rw [List.concat_eq_append] at htext ⊢
    rw [← List.append_assoc]
    have hlast : last ∈ token.text.toList := by
      rw [← htext]
      simp
    have hword := List.all_eq_true.mp (hsymbols _ hkind) last hlast
    exact unjoined_of_last (by simpa using hword)
  | @quoted mark body hmark htext hbody hkind hvalue =>
    have hword : isWordChar mark = false := by
      rcases hmark with rfl | rfl <;> decide
    rw [htext, ← List.cons_append, ← List.append_assoc]
    exact unjoined_of_last hword
  | word htext hword hbefore hafter hdenotes => exact fun _ _ d hd _ => hafter d hd

/-- A comparator is read from the characters of its symbol. -/
theorem exists_of_comparatorLexeme? {symbol : String}
    (h : comparatorLexeme? c rest = some (symbol, width)) :
    ∃ more after, rest = more ++ after ∧ width = more.length ∧ c :: more = symbol.toList ∧
      (TokenKind.comparator, symbol) ∈ symbols := by
  unfold comparatorLexeme? at h
  split at h
  case h_7 => cases h
  all_goals obtain ⟨rfl, rfl⟩ := Prod.mk.inj (Option.some.inj h)
  case h_1 after | h_2 after | h_3 after => exact ⟨['='], after, rfl, rfl, rfl, by decide⟩
  case h_4 | h_5 | h_6 => exact ⟨[], rest, rfl, rfl, rfl, by decide⟩

/-- **A token is told by the characters it is read from.** -/
theorem exists_span (hbefore : Unjoined before (c :: rest))
    (hlexeme : lexeme? c rest = some (lexeme, width))
    (htoken : ofLexeme lexeme offset stop = .ok token) :
    ∃ more after, rest = more ++ after ∧ width = more.length ∧ token.offset = offset ∧
      token.stop = stop ∧ token.Reproduces before (c :: more) after := by
  unfold lexeme? at hlexeme
  split_ifs at hlexeme with hopening hclosing hmark hword
  · subst hopening
    obtain ⟨rfl, rfl⟩ := Prod.mk.inj (Option.some.inj hlexeme)
    obtain rfl := Except.ok.inj htoken
    have hspan : ['('] = "(".toList := rfl
    exact ⟨[], rest, rfl, rfl, rfl, rfl, .symbol (.head _) rfl hspan⟩
  · subst hclosing
    obtain ⟨rfl, rfl⟩ := Prod.mk.inj (Option.some.inj hlexeme)
    obtain rfl := Except.ok.inj htoken
    have hspan : [')'] = ")".toList := rfl
    exact ⟨[], rest, rfl, rfl, rfl, rfl, .symbol (.tail _ (.head _)) rfl hspan⟩
  · obtain ⟨⟨content, count⟩, hread, hpair⟩ := Option.map_eq_some_iff.1 hlexeme
    obtain ⟨rfl, rfl⟩ := Prod.mk.inj hpair
    obtain rfl := Except.ok.inj htoken
    obtain ⟨body, after, rfl, rfl, hbody⟩ := Quoted.exists_body hread
    refine ⟨body ++ [c], after, by simp, by simp, rfl, rfl, .quoted hmark rfl ?_ rfl rfl⟩
    rwa [String.toList_ofList]
  · obtain ⟨rfl, rfl⟩ := Prod.mk.inj (Option.some.inj hlexeme)
    obtain ⟨kind, value, hdenotes, rfl⟩ := ofWord_eq_ok_iff.1 htoken
    refine ⟨rest.takeWhile isWordChar, rest.dropWhile isWordChar,
      List.takeWhile_append_dropWhile.symm, rfl, rfl, rfl,
      .word ?_ ?_ (hbefore.isWordChar_of_mem_getLast? hword) ?_ ?_⟩
    · rw [String.toList_ofList]
    · exact List.forall_mem_cons.2 ⟨hword, fun d hd => List.mem_takeWhile_imp hd⟩
    · intro d hd
      have hne : rest.dropWhile isWordChar ≠ [] := by
        rintro hnil
        rw [hnil] at hd
        cases hd
      have hhead := List.head_dropWhile_not isWordChar hne
      rw [List.head?_eq_some_head hne] at hd
      obtain rfl := Option.some.inj hd
      exact hhead
    · intro kind' value'
      constructor
      · exact fun h => hdenotes.unique h
      · rintro ⟨rfl, rfl⟩
        exact hdenotes
  · obtain ⟨⟨symbol, count⟩, hread, hpair⟩ := Option.map_eq_some_iff.1 hlexeme
    obtain ⟨rfl, rfl⟩ := Prod.mk.inj hpair
    obtain rfl := Except.ok.inj htoken
    obtain ⟨more, after, rfl, rfl, htext, hmem⟩ := exists_of_comparatorLexeme? hread
    exact ⟨more, after, rfl, rfl, rfl, rfl, .symbol hmem rfl htext⟩

/-! ## Tilings -/

/-- The tokens of what follows some text: they come one after the other, each told by its span, and
blanks stand between them. -/
inductive Tiles : (before rest : List Char) → List Token → Prop where
  /-- Nothing is left. -/
  | nil {before : List Char} : Tiles before [] []
  /-- A blank. -/
  | blank {before rest : List Char} {c : Char} {tokens : List Token} (hc : isBlank c = true)
      (h : Tiles (before ++ [c]) rest tokens) : Tiles before (c :: rest) tokens
  /-- A token. -/
  | token {before span rest : List Char} {token : Token} {tokens : List Token}
      (hoffset : token.offset = before.length) (hstop : token.stop = before.length + span.length)
      (hspan : span ≠ []) (htoken : token.Reproduces before span rest)
      (h : Tiles (before ++ span) rest tokens) : Tiles before (span ++ rest) (token :: tokens)

/-- Behind the characters of a token the splitting goes on. -/
theorem scanFrom_behind (before more after : List Char) (c : Char) :
    scanFrom more.length (before.length + 1) (more ++ after) =
      scanFrom 0 (before ++ c :: more).length after := by
  have hlength : (before ++ c :: more).length = before.length + 1 + more.length := by
    rw [List.length_append, List.length_cons]
    omega
  rw [scanFrom_skip, List.drop_left, hlength]

/-- **The tokens of a text tile it.**

**Proof sketch.** Induction on the length of what is left. A word that starts here has not begun in
front, since no word goes on behind a blank (`isWordChar_of_isBlank`) or behind a token
(`Reproduces.unjoined`). -/
theorem tiles_of_scanFrom {tokens : List Token} (hbefore : Unjoined before rest)
    (h : scanFrom 0 before.length rest = .ok tokens) : Tiles before rest tokens := by
  induction hn : rest.length using Nat.strong_induction_on generalizing before rest tokens with
  | _ n ih =>
  subst hn
  cases rest with
  | nil =>
    obtain rfl : tokens = [] := (Except.ok.inj h).symm
    exact .nil
  | cons c rest =>
    rcases scanFrom_cons_eq_ok_iff.1 h with ⟨hblank, htokens⟩ |
      ⟨-, lexeme, width, token, tokens', hlexeme, htoken, htokens, rfl⟩
    · refine .blank hblank (ih rest.length (by simp) ?_ ?_ rfl)
      · exact unjoined_of_last (isWordChar_of_isBlank hblank)
      · rw [List.length_append]
        exact htokens
    · obtain ⟨more, after, rfl, rfl, hoffset, hstop, hreproduces⟩ :=
        exists_span hbefore hlexeme htoken
      have hshorter : after.length < (c :: (more ++ after)).length := by
        rw [List.length_cons, List.length_append]
        omega
      rw [scanFrom_behind] at htokens
      have htile : Tiles (before ++ c :: more) after tokens' :=
        ih after.length hshorter (hreproduces.unjoined (List.cons_ne_nil _ _)) htokens rfl
      have hstop' : token.stop = before.length + (c :: more).length := by
        rw [hstop, List.length_cons]
        omega
      exact Tiles.token hoffset hstop' (List.cons_ne_nil c more) hreproduces htile

/-! ## Tilings by places -/

/-- The characters in the span of a token. -/
def spanned (text : List Char) (token : Token) : List Char :=
  (text.drop token.offset).take (token.stop - token.offset)

variable {tokens : List Token} {text : List Char}

/-- The tokens of a tiling lie in what is tiled. -/
theorem Tiles.bounds (h : Tiles before rest tokens) : ∀ token ∈ tokens,
    before.length ≤ token.offset ∧ token.offset < token.stop ∧
      token.stop ≤ before.length + rest.length := by
  induction h with
  | nil => simp
  | blank hc _ ih =>
    intro token htoken
    have hbounds := ih token htoken
    simp only [List.length_append, List.length_cons, List.length_nil] at hbounds ⊢
    omega
  | @token before span rest token tokens hoffset hstop hspan _ _ ih =>
    have hpos := List.length_pos_iff.2 hspan
    intro other hother
    rw [List.length_append]
    rcases List.mem_cons.1 hother with rfl | hother
    · omega
    · have hbounds := ih other hother
      rw [List.length_append] at hbounds
      omega

/-- The tokens of a tiling come one after the other. -/
theorem Tiles.pairwise (h : Tiles before rest tokens) :
    tokens.Pairwise fun token other => token.stop ≤ other.offset := by
  induction h with
  | nil => exact .nil
  | blank _ _ ih => exact ih
  | @token before span rest token tokens _ hstop _ _ h ih =>
    refine .cons (fun other hother => ?_) ih
    have hbounds := h.bounds other hother
    rw [List.length_append] at hbounds
    omega

/-- What lies in no token of a tiling is blank. -/
theorem Tiles.isBlank (h : Tiles before rest tokens) {i : Nat} (hi : rest[i]? = some c)
    (hout : ∀ token ∈ tokens, before.length + i < token.offset ∨ token.stop ≤ before.length + i) :
    isBlank c = true := by
  induction h generalizing i with
  | nil => cases hi
  | @blank before rest d tokens hd _ ih =>
    cases i with
    | zero =>
      obtain rfl := Option.some.inj hi
      exact hd
    | succ i =>
      refine ih hi fun token htoken => ?_
      have hplace := hout token htoken
      rw [List.length_append, List.length_singleton]
      omega
  | @token before span rest token tokens hoffset hstop _ _ _ ih =>
    have hplace := hout token (List.mem_cons_self ..)
    have hbehind : span.length ≤ i := by omega
    rw [List.getElem?_append_right hbehind] at hi
    refine ih hi fun other hother => ?_
    have hother := hout other (List.mem_cons_of_mem _ hother)
    rw [List.length_append]
    omega

/-- The tokens of a tiling are told by their spans. -/
theorem Tiles.reproduces (h : Tiles before rest tokens) : ∀ token ∈ tokens,
    token.Reproduces ((before ++ rest).take token.offset) (token.spanned (before ++ rest))
      ((before ++ rest).drop token.stop) := by
  induction h with
  | nil => simp
  | @blank before rest c tokens _ _ ih => rwa [List.append_assoc] at ih
  | @token before span rest token tokens hoffset hstop _ htoken _ ih =>
    refine List.forall_mem_cons.2 ⟨?_, by rwa [List.append_assoc] at ih⟩
    have hwidth : token.stop - token.offset = span.length := by omega
    have hbehind : (before ++ (span ++ rest)).drop token.stop = rest := by
      rw [← List.append_assoc, hstop, ← List.length_append, List.drop_left]
    rw [spanned, hwidth, hbehind, hoffset, List.take_left, List.drop_left, List.take_left]
    exact htoken

/-- **Every character of a text belongs to one token or is blank.** The tokens of a text have spans
within it, one after the other; whatever lies in none of the spans is blank; and each span says
what its token is: a symbol, a text in quotation marks with its characters protected, or a whole
word, of which the text alone decides the kind and the value. -/
theorem accounts_of_scan (h : scan text = .ok tokens) :
    (∀ token ∈ tokens, token.offset < token.stop ∧ token.stop ≤ text.length) ∧
    (tokens.Pairwise fun token other => token.stop ≤ other.offset) ∧
    (∀ i c, text[i]? = some c → (∀ token ∈ tokens, i < token.offset ∨ token.stop ≤ i) →
      Criteria.isBlank c = true) ∧
    ∀ token ∈ tokens, token.Reproduces (text.take token.offset) (token.spanned text)
      (text.drop token.stop) := by
  have htiles : Tiles [] text tokens := tiles_of_scanFrom (fun _ hc => by cases hc) h
  refine ⟨fun token htoken => ?_, htiles.pairwise, fun i c hi hout => ?_, htiles.reproduces⟩
  · have hbounds := htiles.bounds token htoken
    rw [List.length_nil, Nat.zero_add] at hbounds
    exact hbounds.2
  · refine htiles.isBlank hi fun token htoken => ?_
    rw [List.length_nil, Nat.zero_add]
    exact hout token htoken

/-- A text with blanks at its end, a symbol of two characters and a protected mark: the quoted text
is told by its span. -/
theorem accounts_of_scan_protected :
    scan "x>='a\\'b' ".toList =
      .ok [⟨.identifier, "x", 0, 1, none⟩, ⟨.comparator, ">=", 1, 3, none⟩,
        ⟨.literal, "a'b", 3, 9, some (.string "a'b")⟩] ∧
    (⟨.literal, "a'b", 3, 9, some (.string "a'b")⟩ : Token).Reproduces "x>=".toList
      "'a\\'b'".toList " ".toList :=
  have hscan : scan "x>='a\\'b' ".toList =
      .ok [⟨.identifier, "x", 0, 1, none⟩, ⟨.comparator, ">=", 1, 3, none⟩,
        ⟨.literal, "a'b", 3, 9, some (.string "a'b")⟩] := rfl
  ⟨hscan, (accounts_of_scan hscan).2.2.2 _ (.tail _ (.tail _ (.head _)))⟩

end Token

end Criteria

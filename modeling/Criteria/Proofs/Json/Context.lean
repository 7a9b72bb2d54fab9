import Criteria.Json.Draft

/-!
# Reading JSON in context

Where a value is read with success, the same value is read when more text follows, and with more
fuel. Only a number could be continued by what follows it.

## Main definitions

* `Criteria.Draft.Sealed` — the texts that do not continue a number.

## Main results

* `Criteria.Draft.readNumber?_append`, `Criteria.Draft.readString?_append` — numbers and texts with
  more behind them.
* `Criteria.Draft.readValue_eq_iff`, `Criteria.Draft.readItems_eq_iff`,
  `Criteria.Draft.readMembers_eq_iff` — all ways in which reading succeeds.
* `Criteria.Draft.extends_of_sealed` — values with more behind them.
-/

set_option autoImplicit false
set_option relaxedAutoImplicit false

namespace Criteria.Draft

/-- Whether a character may continue a number. -/
def continuesNumber (c : Char) : Bool := c.isDigit || c == '.' || c == 'e' || c == 'E'

/-- A text that does not continue a number which stands right before it. -/
def Sealed (tail : List Char) : Prop := ∀ c ∈ tail.head?, continuesNumber c = false

theorem sealed_nil : Sealed [] := by
  intro c hc
  exact nomatch hc

theorem sealed_cons {c : Char} (h : continuesNumber c = false) (tail : List Char) :
    Sealed (c :: tail) := by
  intro d hd
  obtain rfl : c = d := by simpa using hd
  exact h

variable {text rest tail : List Char}

/-! ## Gaps and runs of digits -/

/-- Behind the first character that is no gap the text is not looked at. -/
theorem skipGap_append {c : Char} (h : skipGap text = c :: rest) (tail : List Char) :
    skipGap (text ++ tail) = c :: (rest ++ tail) := by
  unfold skipGap at h ⊢
  rw [List.dropWhile_append, h]
  rfl

/-- A run of digits ends before a text that does not continue a number. -/
theorem takeWhile_isDigit_append (htail : Sealed tail) :
    (text ++ tail).takeWhile Char.isDigit = text.takeWhile Char.isDigit := by
  have hstop : tail.takeWhile Char.isDigit = [] := by
    cases tail with
    | nil => rfl
    | cons c tail =>
      have hc : continuesNumber c = false := htail c rfl
      simp_all [continuesNumber]
  induction text with
  | nil => exact hstop
  | cons c text ih => simp only [List.cons_append, List.takeWhile_cons, ih]

/-- What follows a run of digits is left of the text, and then what follows the text. -/
theorem dropWhile_isDigit_append (htail : Sealed tail) :
    (text ++ tail).dropWhile Char.isDigit = text.dropWhile Char.isDigit ++ tail := by
  have hsplit : (text ++ tail).takeWhile Char.isDigit ++ (text ++ tail).dropWhile Char.isDigit =
      text ++ tail := List.takeWhile_append_dropWhile
  rw [takeWhile_isDigit_append htail] at hsplit
  have hsame : text.takeWhile Char.isDigit ++ (text ++ tail).dropWhile Char.isDigit =
      text.takeWhile Char.isDigit ++ (text.dropWhile Char.isDigit ++ tail) := by
    rw [hsplit, ← List.append_assoc, List.takeWhile_append_dropWhile]
  exact List.append_cancel_left hsame

/-! ## Numbers -/

theorem readWhole?_append {digits : List Char} (htail : Sealed tail)
    (h : readWhole? text = some (digits, rest)) :
    readWhole? (text ++ tail) = some (digits, rest ++ tail) := by
  unfold readWhole? at h ⊢
  rw [takeWhile_isDigit_append htail, dropWhile_isDigit_append htail]
  dsimp only at h ⊢
  split at h
  · exact nomatch h
  · exact nomatch h
  · cases h
    rfl

theorem readFraction?_append {digits : List Char} (htail : Sealed tail)
    (h : readFraction? text = some (digits, rest)) :
    readFraction? (text ++ tail) = some (digits, rest ++ tail) := by
  cases text with
  | nil =>
    cases h
    show readFraction? tail = some ([], tail)
    unfold readFraction?
    split
    · exact absurd (htail '.' rfl) (by decide)
    · rfl
  | cons c text =>
    by_cases hc : c = '.'
    · subst hc
      unfold readFraction? at h ⊢
      simp only [List.cons_append, takeWhile_isDigit_append htail,
        dropWhile_isDigit_append htail] at h ⊢
      split at h
      · exact nomatch h
      · next hne =>
        cases h
        rw [if_neg hne]
    · have hplain : ∀ digits', readFraction? (c :: digits') = some ([], c :: digits') := by
        intro digits'
        unfold readFraction?
        split
        · next heq => exact absurd (List.cons.inj heq).1 hc
        · rfl
      rw [hplain] at h
      cases h
      exact hplain _

/-- The sign of a text that is not empty is not looked for behind it. -/
theorem readSign_append (h : text ≠ []) (tail : List Char) :
    Numeral.readSign (text ++ tail) =
      ((Numeral.readSign text).1, (Numeral.readSign text).2 ++ tail) := by
  cases text with
  | nil => exact absurd rfl h
  | cons c text =>
    by_cases hminus : c = '-'
    · subst hminus; rfl
    · by_cases hplus : c = '+'
      · subst hplus; rfl
      · simp [Numeral.readSign, hminus, hplus]

theorem readExponent?_append {exponent : Option Int} (htail : Sealed tail)
    (h : readExponent? text = some (exponent, rest)) :
    readExponent? (text ++ tail) = some (exponent, rest ++ tail) := by
  cases text with
  | nil =>
    cases h
    show readExponent? tail = some (none, tail)
    cases tail with
    | nil => rfl
    | cons c tail =>
      have hc : continuesNumber c = false := htail c rfl
      have hletter : ¬(c = 'e' ∨ c = 'E') := by
        rintro (rfl | rfl) <;> exact absurd hc (by decide)
      show (if c = 'e' ∨ c = 'E' then _ else _) = _
      rw [if_neg hletter]
  | cons c text =>
    unfold readExponent? at h ⊢
    by_cases hletter : c = 'e' ∨ c = 'E'
    · have hne : text ≠ [] := by
        rintro rfl
        simp [hletter, Numeral.readSign] at h
      simp only [List.cons_append, if_pos hletter, readSign_append hne,
        takeWhile_isDigit_append htail, dropWhile_isDigit_append htail] at h ⊢
      split at h
      · exact nomatch h
      · next hdigits =>
        cases h
        rw [if_neg hdigits]
    · simp only [List.cons_append, if_neg hletter] at h ⊢
      cases h
      rfl

/-- Reads a number of which the sign has been read. -/
def readUnsigned? (negative : Bool) (text : List Char) : Option (Draft × List Char) :=
  match readWhole? text with
  | none => none
  | some (whole, rest) =>
    match readFraction? rest with
    | none => none
    | some (fraction, rest) =>
      match readExponent? rest with
      | none => none
      | some (exponent, rest) =>
        let numeral : Numeral := { negative, whole, fraction, exponent := exponent.getD 0 }
        some (.number numeral (fraction = [] ∧ exponent = none), rest)

theorem readNumber?_minus (text : List Char) :
    readNumber? ('-' :: text) = readUnsigned? true text := rfl

theorem readNumber?_of_ne {c : Char} (h : c ≠ '-') (text : List Char) :
    readNumber? (c :: text) = readUnsigned? false (c :: text) := by
  unfold readNumber?
  split
  next negative unsigned heq =>
    split at heq
    · next hminus => exact absurd (List.cons.inj hminus).1 h
    · cases heq
      rfl

theorem readUnsigned?_append {negative : Bool} {draft : Draft} (htail : Sealed tail)
    (h : readUnsigned? negative text = some (draft, rest)) :
    readUnsigned? negative (text ++ tail) = some (draft, rest ++ tail) := by
  unfold readUnsigned? at h ⊢
  split at h
  · exact nomatch h
  · next whole rest hwhole =>
    rw [readWhole?_append htail hwhole]
    dsimp only at h ⊢
    split at h
    · exact nomatch h
    · next fraction rest hfraction =>
      rw [readFraction?_append htail hfraction]
      dsimp only at h ⊢
      split at h
      · exact nomatch h
      · next exponent rest hexponent =>
        rw [readExponent?_append htail hexponent]
        cases h
        rfl

theorem readNumber?_append {draft : Draft} (htail : Sealed tail)
    (h : readNumber? text = some (draft, rest)) :
    readNumber? (text ++ tail) = some (draft, rest ++ tail) := by
  cases text with
  | nil => exact nomatch h
  | cons c text =>
    by_cases hminus : c = '-'
    · subst hminus
      rw [readNumber?_minus] at h
      exact readUnsigned?_append htail h
    · rw [readNumber?_of_ne hminus] at h
      rw [List.cons_append, readNumber?_of_ne hminus]
      exact readUnsigned?_append htail h

/-! ## Texts -/

/-! The ways in which one piece is read in front of any text. -/

theorem readPieces?_unit {a b c d : Char} {n : Nat} (hunit : unit? a b c d = some n)
    (text : List Char) :
    readPieces? ('\\' :: 'u' :: a :: b :: c :: d :: text) =
      (readPieces? text).map fun (pieces, rest) => (.unit n :: pieces, rest) := by
  rw [readPieces?, hunit]

theorem readPieces?_short {c d : Char} (hshort : shortEscape? c = some d) (text : List Char) :
    readPieces? ('\\' :: c :: text) =
      (readPieces? text).map fun (pieces, rest) => (.char d :: pieces, rest) := by
  have hu : c ≠ 'u' := by
    rintro rfl
    exact nomatch hshort
  rw [readPieces?, hshort]
  intro _ _ _ _ _ heq
  exact absurd heq hu

theorem readPieces?_plain {c : Char} (hquote : c ≠ '"') (hok : ¬(c = '\\' ∨ c.toNat < 0x20))
    (text : List Char) :
    readPieces? (c :: text) =
      (readPieces? text).map fun (pieces, rest) => (.char c :: pieces, rest) := by
  have hslash : c ≠ '\\' := fun heq => hok (.inl heq)
  rw [readPieces?, if_neg hok]
  · exact hquote
  · intro _ _ _ _ _ heq
    exact absurd heq hslash
  · intro _ _ heq
    exact absurd heq hslash

/-- A piece in front of what is read with more behind it. -/
theorem map_readPieces?_append {piece : Piece} {pieces : List Piece}
    (hbehind : ∀ {pieces : List Piece}, readPieces? text = some (pieces, rest) →
      readPieces? (text ++ tail) = some (pieces, rest ++ tail))
    (h : ((readPieces? text).map fun (pieces, rest) => (piece :: pieces, rest)) =
      some (pieces, rest)) :
    ((readPieces? (text ++ tail)).map fun (pieces, rest) => (piece :: pieces, rest)) =
      some (pieces, rest ++ tail) := by
  obtain ⟨⟨more, rest'⟩, hmore, heq⟩ := Option.map_eq_some_iff.mp h
  cases heq
  rw [hbehind hmore]
  rfl

theorem readPieces?_append {pieces : List Piece} (h : readPieces? text = some (pieces, rest))
    (tail : List Char) : readPieces? (text ++ tail) = some (pieces, rest ++ tail) := by
  induction text using readPieces?.induct generalizing pieces with
  | case1 => exact nomatch h
  | case2 rest => cases h; rfl
  | case3 a b c d text hunit =>
    rw [readPieces?, hunit] at h
    exact nomatch h
  | case4 a b c d text n hunit ih =>
    rw [readPieces?_unit hunit] at h
    simp only [List.cons_append]
    rw [readPieces?_unit hunit]
    exact map_readPieces?_append ih h
  | case5 c text hnot hshort =>
    rw [readPieces?, hshort] at h
    · exact nomatch h
    · exact hnot
  | case6 c text hnot d hshort ih =>
    rw [readPieces?_short hshort] at h
    simp only [List.cons_append]
    rw [readPieces?_short hshort]
    exact map_readPieces?_append ih h
  | case7 c text hquote hnot hnot' hbad =>
    rw [readPieces?, if_pos hbad] at h
    · exact nomatch h
    · exact hquote
    · exact hnot
    · exact hnot'
  | case8 c text hquote hnot hnot' hok ih =>
    rw [readPieces?_plain hquote hok] at h
    simp only [List.cons_append]
    rw [readPieces?_plain hquote hok]
    exact map_readPieces?_append ih h

theorem readString?_append {read : Option String} (h : readString? text = some (read, rest))
    (tail : List Char) : readString? (text ++ tail) = some (read, rest ++ tail) := by
  unfold readString? at h ⊢
  obtain ⟨⟨pieces, rest'⟩, hpieces, heq⟩ := Option.map_eq_some_iff.mp h
  cases heq
  rw [readPieces?_append hpieces]
  rfl

/-! ## The ways in which reading succeeds -/

/-- The ways in which a value is read, behind the gap before it. -/
inductive ReadsValue (fuel : Nat) : List Char → Draft → List Char → Prop
  | null (rest : List Char) : ReadsValue fuel ('n' :: 'u' :: 'l' :: 'l' :: rest) .null rest
  | true (rest : List Char) : ReadsValue fuel ('t' :: 'r' :: 'u' :: 'e' :: rest) (.bool true) rest
  | false (rest : List Char) :
    ReadsValue fuel ('f' :: 'a' :: 'l' :: 's' :: 'e' :: rest) (.bool false) rest
  | string {body rest : List Char} {read : Option String}
      (hread : readString? body = some (read, rest)) :
    ReadsValue fuel ('"' :: body) (.string read) rest
  | noItems {body rest : List Char} (hend : skipGap body = ']' :: rest) :
    ReadsValue fuel ('[' :: body) (.array [] true) rest
  | array {body more rest : List Char} {c : Char} {items : List Draft}
      (hgap : skipGap body = c :: more) (hne : c ≠ ']')
      (hitems : readItems fuel (c :: more) = (items, some rest)) :
    ReadsValue fuel ('[' :: body) (.array items true) rest
  | noMembers {body rest : List Char} (hend : skipGap body = '}' :: rest) :
    ReadsValue fuel ('{' :: body) (.object [] true) rest
  | object {body more rest : List Char} {c : Char} {members : List (Option String × Draft)}
      (hgap : skipGap body = c :: more) (hne : c ≠ '}')
      (hmembers : readMembers fuel (c :: more) = (members, some rest)) :
    ReadsValue fuel ('{' :: body) (.object members true) rest
  | number {text rest : List Char} {draft : Draft}
      (hnumber : readNumber? text = some (draft, rest)) :
    ReadsValue fuel text draft rest

/-- The ways in which items are read. -/
inductive ReadsItems (fuel : Nat) (text : List Char) : List Draft → List Char → Prop
  | last {item : Draft} {gap rest : List Char} (hitem : readValue fuel text = (item, some gap))
      (hend : skipGap gap = ']' :: rest) :
    ReadsItems fuel text [item] rest
  | more {item : Draft} {items : List Draft} {gap others more rest : List Char} {c : Char}
      (hitem : readValue fuel text = (item, some gap)) (hcomma : skipGap gap = ',' :: others)
      (hgap : skipGap others = c :: more) (hne : c ≠ ']')
      (hitems : readItems fuel (c :: more) = (items, some rest)) :
    ReadsItems fuel text (item :: items) rest

/-- The ways in which members are read. -/
inductive ReadsMembers (fuel : Nat) (text : List Char) :
    List (Option String × Draft) → List Char → Prop
  | last {name : Option String} {value : Draft} {body colon after gap rest : List Char}
      (hquote : skipGap text = '"' :: body) (hname : readString? body = some (name, colon))
      (hcolon : skipGap colon = ':' :: after) (hvalue : readValue fuel after = (value, some gap))
      (hend : skipGap gap = '}' :: rest) :
    ReadsMembers fuel text [(name, value)] rest
  | more {name : Option String} {value : Draft} {members : List (Option String × Draft)}
      {body colon after gap others rest : List Char}
      (hquote : skipGap text = '"' :: body) (hname : readString? body = some (name, colon))
      (hcolon : skipGap colon = ':' :: after) (hvalue : readValue fuel after = (value, some gap))
      (hcomma : skipGap gap = ',' :: others)
      (hmembers : readMembers fuel others = (members, some rest)) :
    ReadsMembers fuel text ((name, value) :: members) rest

/-- A number starts with a minus sign or with a digit. -/
theorem head_of_readNumber? {draft : Draft} (h : readNumber? text = some (draft, rest)) :
    ∃ c more, text = c :: more ∧ (c = '-' ∨ c.isDigit = true) := by
  cases text with
  | nil => exact nomatch h
  | cons c more =>
    refine ⟨c, more, rfl, ?_⟩
    by_cases hminus : c = '-'
    · exact .inl hminus
    · by_cases hdigit : c.isDigit = true
      · exact .inr hdigit
      · rw [readNumber?_of_ne hminus] at h
        simp [readUnsigned?, readWhole?, hdigit] at h

variable {fuel : Nat}

/-- Behind an opening bracket: the end of an empty list, or its items. -/
theorem readsValue_of_bracket {draft : Draft} {body : List Char}
    (hopen : skipGap text = '[' :: body)
    (h : readValue (fuel + 1) text = (draft, some rest)) :
    ReadsValue fuel ('[' :: body) draft rest := by
  simp only [readValue, hopen] at h
  cases hgap : skipGap body with
  | nil =>
    rw [hgap] at h
    exact nomatch h
  | cons c more =>
    rw [hgap] at h
    split at h
    · next heq =>
      cases h
      exact .noItems (hgap.trans heq)
    · next heq => exact nomatch heq
    · next hend _ =>
      have hne : c ≠ ']' := by
        rintro rfl
        exact hend more rfl
      cases hitems : readItems fuel (c :: more) with
      | mk items rest' =>
        rw [hitems] at h
        cases h
        exact .array hgap hne hitems

/-- Behind an opening brace: the end of an empty object, or its members. -/
theorem readsValue_of_brace {draft : Draft} {body : List Char}
    (hopen : skipGap text = '{' :: body)
    (h : readValue (fuel + 1) text = (draft, some rest)) :
    ReadsValue fuel ('{' :: body) draft rest := by
  simp only [readValue, hopen] at h
  split at h
  · next hend => cases h; exact .noMembers hend
  · next hend =>
    cases hmembers : readMembers fuel (skipGap body) with
    | mk members rest' =>
      rw [hmembers] at h
      cases h
      cases hgap : skipGap body with
      | nil =>
        rw [hgap] at hmembers
        cases fuel <;> exact nomatch hmembers
      | cons c more =>
        have hne : c ≠ '}' := by
          rintro rfl
          exact hend more hgap
        rw [hgap] at hmembers
        exact .object hgap hne hmembers

theorem readsValue_of_readValue {draft : Draft}
    (h : readValue (fuel + 1) text = (draft, some rest)) :
    ReadsValue fuel (skipGap text) draft rest := by
  have hread := h
  rw [readValue] at h
  split at h
  · next heq => cases h; rw [heq]; exact .null _
  · next heq => cases h; rw [heq]; exact .true _
  · next heq => cases h; rw [heq]; exact .false _
  · next heq =>
    rw [heq]
    split at h
    · exact nomatch h
    · next hstring => cases h; exact .string hstring
  · next hopen => rw [hopen]; exact readsValue_of_bracket hopen hread
  · next hopen => rw [hopen]; exact readsValue_of_brace hopen hread
  · split at h
    · exact nomatch h
    · next hnumber => cases h; exact .number hnumber

theorem readValue_of_readsValue {draft : Draft}
    (h : ReadsValue fuel (skipGap text) draft rest) :
    readValue (fuel + 1) text = (draft, some rest) := by
  rw [readValue]
  generalize skipGap text = behind at h
  cases h with
  | null => rfl
  | true => rfl
  | false => rfl
  | string hread => simp [hread]
  | noItems hend => simp [hend]
  | array hgap hne hitems => simp [hgap, hne, hitems]
  | noMembers hend => simp [hend]
  | object hgap hne hmembers => simp [hgap, hne, hmembers]
  | number hnumber =>
    obtain ⟨c, more, rfl, hc⟩ := head_of_readNumber? hnumber
    have hplain : c ≠ 'n' ∧ c ≠ 't' ∧ c ≠ 'f' ∧ c ≠ '"' ∧ c ≠ '[' ∧ c ≠ '{' := by
      refine ⟨?_, ?_, ?_, ?_, ?_, ?_⟩ <;> rintro rfl <;> exact absurd hc (by decide)
    simp [hplain, hnumber]

theorem readValue_eq_iff {draft : Draft} :
    readValue (fuel + 1) text = (draft, some rest) ↔
      ReadsValue fuel (skipGap text) draft rest :=
  ⟨readsValue_of_readValue, readValue_of_readsValue⟩

theorem readItems_eq_iff {items : List Draft} :
    readItems (fuel + 1) text = (items, some rest) ↔ ReadsItems fuel text items rest := by
  rw [readItems]
  constructor
  · intro h
    obtain ⟨item, gap, hitem⟩ : ∃ item gap, readValue fuel text = (item, gap) := ⟨_, _, rfl⟩
    rw [hitem] at h
    cases gap with
    | none => exact nomatch h
    | some gap =>
      dsimp only [Option.map_some] at h
      split at h
      · next hend => cases h; exact .last hitem (Option.some.inj hend)
      · next others hcomma =>
        split at h
        · exact nomatch h
        · exact nomatch h
        · next hnil hclose =>
          cases hgap : skipGap others with
          | nil => exact absurd hgap hnil
          | cons c more =>
            have hne : c ≠ ']' := by
              rintro rfl
              exact hclose more hgap
            rw [hgap] at h
            cases hitems : readItems fuel (c :: more) with
            | mk items' rest' =>
              rw [hitems] at h
              cases h
              exact .more hitem (Option.some.inj hcomma) hgap hne hitems
      · exact nomatch h
  · intro h
    cases h with
    | last hitem hend => simp [hitem, hend]
    | more hitem hcomma hgap hne hitems => simp [hitem, hcomma, hgap, hne, hitems]

theorem readMembers_eq_iff {members : List (Option String × Draft)} :
    readMembers (fuel + 1) text = (members, some rest) ↔ ReadsMembers fuel text members rest := by
  rw [readMembers]
  constructor
  · intro h
    split at h
    · next body hquote =>
      split at h
      · exact nomatch h
      · next name colon hname =>
        split at h
        · next after hcolon =>
          obtain ⟨value, gap, hvalue⟩ : ∃ value gap, readValue fuel after = (value, gap) :=
            ⟨_, _, rfl⟩
          rw [hvalue] at h
          cases gap with
          | none => exact nomatch h
          | some gap =>
            dsimp only [Option.map_some] at h
            split at h
            · next hend => cases h; exact .last hquote hname hcolon hvalue (Option.some.inj hend)
            · next others hcomma =>
              obtain ⟨members', rest', hmembers⟩ : ∃ members' rest', readMembers fuel others =
                (members', rest') := ⟨_, _, rfl⟩
              rw [hmembers] at h
              cases h
              exact .more hquote hname hcolon hvalue (Option.some.inj hcomma) hmembers
            · exact nomatch h
        · exact nomatch h
    · exact nomatch h
  · intro h
    cases h with
    | last hquote hname hcolon hvalue hend => simp [hquote, hname, hcolon, hvalue, hend]
    | more hquote hname hcolon hvalue hcomma hmembers =>
      simp [hquote, hname, hcolon, hvalue, hcomma, hmembers]

/-! ## Reading with more fuel and more text -/

/-- What is read with some fuel is read with as much or more fuel and with a text behind. -/
structure Extends (fuel : Nat) (tail : List Char) : Prop where
  /-- A value. -/
  value : ∀ {text rest : List Char} {draft : Draft} {more : Nat},
    readValue fuel text = (draft, some rest) → fuel ≤ more →
      readValue more (text ++ tail) = (draft, some (rest ++ tail))
  /-- Items. -/
  items : ∀ {text rest : List Char} {items : List Draft} {more : Nat},
    readItems fuel text = (items, some rest) → fuel ≤ more →
      readItems more (text ++ tail) = (items, some (rest ++ tail))
  /-- Members. -/
  members : ∀ {text rest : List Char} {members : List (Option String × Draft)} {more : Nat},
    readMembers fuel text = (members, some rest) → fuel ≤ more →
      readMembers more (text ++ tail) = (members, some (rest ++ tail))

variable {more : Nat}

theorem ReadsValue.append {draft : Draft} (h : ReadsValue fuel text draft rest)
    (htail : Sealed tail) (hext : Extends fuel tail) (hmore : fuel ≤ more) :
    ReadsValue more (text ++ tail) draft (rest ++ tail) := by
  cases h with
  | null => exact .null _
  | true => exact .true _
  | false => exact .false _
  | string hread => exact .string (readString?_append hread tail)
  | noItems hend => exact .noItems (skipGap_append hend tail)
  | array hgap hne hitems =>
    exact .array (skipGap_append hgap tail) hne (hext.items hitems hmore)
  | noMembers hend => exact .noMembers (skipGap_append hend tail)
  | object hgap hne hmembers =>
    exact .object (skipGap_append hgap tail) hne (hext.members hmembers hmore)
  | number hnumber => exact .number (readNumber?_append htail hnumber)

theorem ReadsItems.append {items : List Draft} (h : ReadsItems fuel text items rest)
    (hext : Extends fuel tail) (hmore : fuel ≤ more) :
    ReadsItems more (text ++ tail) items (rest ++ tail) := by
  cases h with
  | last hitem hend => exact .last (hext.value hitem hmore) (skipGap_append hend tail)
  | more hitem hcomma hgap hne hitems =>
    exact .more (hext.value hitem hmore) (skipGap_append hcomma tail) (skipGap_append hgap tail)
      hne (hext.items hitems hmore)

theorem ReadsMembers.append {members : List (Option String × Draft)}
    (h : ReadsMembers fuel text members rest) (hext : Extends fuel tail) (hmore : fuel ≤ more) :
    ReadsMembers more (text ++ tail) members (rest ++ tail) := by
  cases h with
  | last hquote hname hcolon hvalue hend =>
    exact .last (skipGap_append hquote tail) (readString?_append hname tail)
      (skipGap_append hcolon tail) (hext.value hvalue hmore) (skipGap_append hend tail)
  | more hquote hname hcolon hvalue hcomma hmembers =>
    exact .more (skipGap_append hquote tail) (readString?_append hname tail)
      (skipGap_append hcolon tail) (hext.value hvalue hmore) (skipGap_append hcomma tail)
      (hext.members hmembers hmore)

/-- A value starts with a character. -/
theorem ReadsValue.exists_cons {draft : Draft} (h : ReadsValue fuel text draft rest) :
    ∃ c more, text = c :: more := by
  cases h with
  | number hnumber =>
    obtain ⟨c, more, heq, -⟩ := head_of_readNumber? hnumber
    exact ⟨c, more, heq⟩
  | _ => exact ⟨_, _, rfl⟩

/-- **Reading in context.** What is read with success is read in the same way with more fuel, and
with a text behind it that does not continue a number.

**Proof sketch.** Induction on the fuel: each way in which a value, items or members are read is
also one with more text behind, since what follows is looked at only behind a number. -/
theorem extends_of_sealed (htail : Sealed tail) (fuel : Nat) : Extends fuel tail := by
  induction fuel with
  | zero => refine ⟨?_, ?_, ?_⟩ <;> exact fun h _ => nomatch h
  | succ fuel hext =>
    have hsucc : ∀ {more : Nat}, fuel + 1 ≤ more → ∃ less, more = less + 1 ∧ fuel ≤ less := by
      intro more hmore
      exact ⟨more - 1, by omega, by omega⟩
    refine ⟨?_, ?_, ?_⟩
    · intro text rest draft more h hmore
      obtain ⟨less, rfl, hless⟩ := hsucc hmore
      have hreads : ReadsValue fuel (skipGap text) draft rest := readValue_eq_iff.mp h
      obtain ⟨c, body, hgap⟩ := hreads.exists_cons
      refine readValue_eq_iff.mpr ?_
      rw [skipGap_append hgap, ← List.cons_append, ← hgap]
      exact hreads.append htail hext hless
    · intro text rest items more h hmore
      obtain ⟨less, rfl, hless⟩ := hsucc hmore
      exact readItems_eq_iff.mpr ((readItems_eq_iff.mp h).append hext hless)
    · intro text rest members more h hmore
      obtain ⟨less, rfl, hless⟩ := hsucc hmore
      exact readMembers_eq_iff.mpr ((readMembers_eq_iff.mp h).append hext hless)

end Criteria.Draft

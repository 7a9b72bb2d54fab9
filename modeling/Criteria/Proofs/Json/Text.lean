import Criteria.Json.Basic
import Criteria.Json.Decode
import Criteria.Proofs.Json.Context
import Mathlib.Data.List.DropRight
import Mathlib.Data.Nat.Digits.Lemmas

/-!
# JSON texts and what they are read as

A text is a JSON text of a draft if the draft is read from it wherever it stands. Texts of lists
and objects are put together from the texts of their parts, and the compact text of a value is a
text of that value.

## Main definitions

* `Criteria.Draft.IsText` — a text from which a draft is read wherever it stands.
* `Criteria.Draft.itemsText`, `Criteria.Draft.membersText` — parts put together.
* `Criteria.Json.draft` — what a value is read as.

## Main results

* `Criteria.Draft.readString?_escape` — an escaped text is read back.
* `Criteria.Draft.isText_array`, `Criteria.Draft.isText_object` — lists and objects from the texts
  of their parts, whatever these look like.
* `Criteria.Json.isText_chars` — the compact text of a value is a text of it.
* `Criteria.Json.decode_eq_ok_iff` — what a whole text is decoded to.
-/

set_option autoImplicit false
set_option relaxedAutoImplicit false

namespace Criteria

/-! ## Escaped texts -/

namespace Draft

/-- What an escaped character is read as. -/
def pieceOf (c : Char) : Piece :=
  if c ∈ ['"', '\\', '\x08', '\x0c', '\n', '\r', '\t'] then .char c
  else if c.toNat < 0x20 then .unit c.toNat
  else .char c

/-- The escape with four digits is read back. -/
theorem unit?_hexDigits : ∀ n < 0x20,
    unit? '0' '0' (Json.hexDigit (n / 16)) (Json.hexDigit (n % 16)) = some n := by decide

/-- An escaped character is read as one piece. -/
theorem readPieces?_escapeChar (c : Char) (rest : List Char) :
    readPieces? (Json.escapeChar c ++ rest) =
      (readPieces? rest).map fun (pieces, rest) => (pieceOf c :: pieces, rest) := by
  by_cases hshort : c ∈ ['"', '\\', '\x08', '\x0c', '\n', '\r', '\t']
  · simp only [List.mem_cons, List.not_mem_nil, or_false] at hshort
    rcases hshort with rfl | rfl | rfl | rfl | rfl | rfl | rfl <;> rfl
  have hother := hshort
  simp only [List.mem_cons, List.not_mem_nil, or_false, not_or] at hother
  obtain ⟨hquote, hslash, hb, hf, hn, hr, ht⟩ := hother
  rw [Json.escapeChar, if_neg hquote, if_neg hslash, if_neg hb, if_neg hf, if_neg hn, if_neg hr,
    if_neg ht]
  by_cases hcontrol : c.toNat < 0x20
  · have hpiece : pieceOf c = .unit c.toNat := by
      rw [pieceOf, if_neg hshort, if_pos hcontrol]
    rw [if_pos hcontrol]
    simp only [List.cons_append, List.nil_append]
    rw [readPieces?_unit (unit?_hexDigits _ hcontrol), hpiece]
  · have hpiece : pieceOf c = .char c := by
      rw [pieceOf, if_neg hshort, if_neg hcontrol]
    have hok : ¬(c = '\\' ∨ c.toNat < 0x20) := not_or.mpr ⟨hslash, hcontrol⟩
    rw [if_neg hcontrol, List.singleton_append, readPieces?_plain hquote hok, hpiece]

/-- The pieces of an escaped text. -/
theorem readPieces?_escape (text rest : List Char) :
    readPieces? (Json.escape text ++ '"' :: rest) = some (text.map pieceOf, rest) := by
  induction text with
  | nil => rfl
  | cons c text ih =>
    show readPieces? ((Json.escapeChar c ++ Json.escape text) ++ '"' :: rest) = _
    rw [List.append_assoc, readPieces?_escapeChar, ih]
    rfl

/-- A code unit below the surrogates is a character by itself. -/
theorem assemble?_unit {n : Nat} (h : n < 0xD800) (rest : List Piece) :
    assemble? (.unit n :: rest) = (assemble? rest).map (Char.ofNat n :: ·) := by
  have hhigh : ¬(0xD800 ≤ n ∧ n ≤ 0xDBFF) := by omega
  have hlow : ¬(0xDC00 ≤ n ∧ n ≤ 0xDFFF) := by omega
  have hany : ¬(0xD800 ≤ n ∧ n ≤ 0xDFFF) := by omega
  cases rest with
  | nil => simp [assemble?, hany]
  | cons piece rest =>
    cases piece with
    | char c => simp [assemble?, hany]
    | unit low => rw [assemble?, if_neg hhigh, if_neg hlow]

/-- The pieces of an escaped text are its characters: no control character is a surrogate. -/
theorem assemble?_pieces (text : List Char) : assemble? (text.map pieceOf) = some text := by
  induction text with
  | nil => rfl
  | cons c text ih =>
    have hpiece : pieceOf c = .char c ∨ c.toNat < 0x20 ∧ pieceOf c = .unit c.toNat := by
      unfold pieceOf
      split
      · exact .inl rfl
      · split
        · next hcontrol => exact .inr ⟨hcontrol, rfl⟩
        · exact .inl rfl
    rw [List.map_cons]
    rcases hpiece with hchar | ⟨hcontrol, hunit⟩
    · rw [hchar, assemble?, ih]
      rfl
    · rw [hunit, assemble?_unit (hcontrol.trans (by decide)), ih, Char.ofNat_toNat]
      rfl

/-- An escaped text is read back. -/
theorem readString?_escape (text : String) (rest : List Char) :
    readString? (Json.escape text.toList ++ '"' :: rest) = some (some text, rest) := by
  unfold readString?
  rw [readPieces?_escape]
  show some (Option.map String.ofList (assemble? (text.toList.map pieceOf)), rest) = _
  rw [assemble?_pieces, Option.map_some, String.ofList_toList]

/-! ## Texts of drafts -/

/-- A text from which a draft is read wherever it stands. A gap at its end is left over. -/
def IsText (text : List Char) (draft : Draft) : Prop :=
  ∃ gap, (∀ c ∈ gap, isGap c = true) ∧ ∀ {fuel : Nat} {tail : List Char},
    text.length < fuel → Sealed tail → readValue fuel (text ++ tail) = (draft, some (gap ++ tail))

/-- A draft that is read up to the end of a text, or up to a gap at its end, is read from it
wherever it stands. -/
theorem isText_of_read {text gap : List Char} {draft : Draft}
    (h : Draft.read text = (draft, some gap)) (hgap : skipGap gap = []) : IsText text draft :=
  ⟨gap, List.dropWhile_eq_nil_iff.mp hgap, fun hfuel htail =>
    (extends_of_sealed htail _).value h hfuel⟩

/-- A text that is read in one step is a text of what is read. -/
theorem isText_of_reads {text : List Char} {draft : Draft}
    (h : ∀ (fuel : Nat) (tail : List Char), text.length ≤ fuel → Sealed tail →
      ReadsValue fuel (skipGap (text ++ tail)) draft tail) : IsText text draft := by
  refine ⟨[], by simp, ?_⟩
  intro fuel tail hfuel htail
  obtain ⟨fuel, rfl⟩ : ∃ less, fuel = less + 1 := ⟨fuel - 1, by omega⟩
  exact readValue_eq_iff.mpr (h fuel tail (Nat.le_of_lt_succ hfuel) htail)

theorem skipGap_of_not_isGap {c : Char} (h : isGap c = false) (rest : List Char) :
    skipGap (c :: rest) = c :: rest := by
  simp [skipGap, h]

theorem skipGap_gap {gap : List Char} (h : ∀ c ∈ gap, isGap c = true) (rest : List Char) :
    skipGap (gap ++ rest) = skipGap rest := List.dropWhile_append_of_pos h

/-- A gap before a value is not looked at. -/
theorem readValue_skipGap (fuel : Nat) (text : List Char) :
    readValue fuel (skipGap text) = readValue fuel text := by
  cases fuel with
  | zero => rfl
  | succ fuel =>
    have hidem : skipGap (skipGap text) = skipGap text := List.dropWhile_idempotent isGap text
    rw [readValue, readValue, hidem]

/-- A gap before items is not looked at. -/
theorem readItems_skipGap (fuel : Nat) (text : List Char) :
    readItems fuel (skipGap text) = readItems fuel text := by
  cases fuel with
  | zero => rfl
  | succ fuel => rw [readItems, readItems, readValue_skipGap]

namespace IsText

variable {text : List Char} {draft : Draft}

/-- The text of a value, behind the gap before it, does not start with a closing bracket. -/
theorem exists_head (h : IsText text draft) (tail : List Char) (htail : Sealed tail) :
    ∃ c more, skipGap (text ++ tail) = c :: more ∧ c ≠ ']' := by
  obtain ⟨gap, -, hread⟩ := h
  have hvalue := readValue_eq_iff.mp (hread (Nat.lt_succ_self _) htail)
  generalize skipGap (text ++ tail) = behind at hvalue
  cases hvalue with
  | number hnumber =>
    obtain ⟨c, more, heq, hc⟩ := head_of_readNumber? hnumber
    refine ⟨c, more, heq, ?_⟩
    rintro rfl
    exact absurd hc (by decide)
  | _ => exact ⟨_, _, rfl, by decide⟩

end IsText

/-! ## Lists and objects -/

/-- The texts of items, put together. -/
def itemsText : List (List Char) → List Char
  | [] => []
  | [text] => text
  | text :: rest => text ++ ',' :: itemsText rest

/-- Names and the texts of values, put together. -/
def membersText : List (String × List Char) → List Char
  | [] => []
  | [(name, text)] => Json.quote name ++ ':' :: text
  | (name, text) :: rest => Json.quote name ++ ':' :: (text ++ ',' :: membersText rest)

/-- The text of items starts with the text of the first, and what follows it does not continue a
number. -/
theorem itemsText_cons (item : List Char × Draft) (rest : List (List Char × Draft))
    (tail : List Char) :
    ∃ follow, itemsText ((item :: rest).map Prod.fst) ++ ']' :: tail = item.1 ++ follow ∧
      Sealed follow := by
  cases rest with
  | nil => exact ⟨']' :: tail, rfl, sealed_cons rfl _⟩
  | cons next rest =>
    refine ⟨',' :: (itemsText ((next :: rest).map Prod.fst) ++ ']' :: tail), ?_,
      sealed_cons rfl _⟩
    show (item.1 ++ ',' :: itemsText ((next :: rest).map Prod.fst)) ++ ']' :: tail = _
    rw [List.append_assoc, List.cons_append]

/-- Items are read one after the other up to the bracket behind them. -/
theorem readItems_itemsText (items : List (List Char × Draft)) (hne : items ≠ [])
    (h : ∀ item ∈ items, IsText item.1 item.2) {fuel : Nat}
    (hfuel : (itemsText (items.map Prod.fst)).length + 1 < fuel) (tail : List Char) :
    readItems fuel (itemsText (items.map Prod.fst) ++ ']' :: tail) =
      (items.map Prod.snd, some tail) := by
  induction items generalizing fuel with
  | nil => exact absurd rfl hne
  | cons item rest ih =>
    obtain ⟨text, draft⟩ := item
    obtain ⟨fuel, rfl⟩ : ∃ less, fuel = less + 1 := ⟨fuel - 1, by omega⟩
    obtain ⟨gap, hgap, hread⟩ : IsText text draft := h _ (List.mem_cons_self ..)
    refine readItems_eq_iff.mpr ?_
    cases rest with
    | nil =>
      have hlength : text.length + 1 < fuel + 1 := hfuel
      refine .last (hread (by omega) (sealed_cons rfl tail)) ?_
      rw [skipGap_gap hgap, skipGap_of_not_isGap rfl]
    | cons next rest =>
      have hrest : ∀ item ∈ next :: rest, IsText item.1 item.2 := fun item hmem =>
        h item (List.mem_cons_of_mem _ hmem)
      have htext : itemsText (((text, draft) :: next :: rest).map Prod.fst) =
          text ++ ',' :: itemsText ((next :: rest).map Prod.fst) := rfl
      rw [htext] at hfuel ⊢
      rw [List.length_append, List.length_cons] at hfuel
      rw [List.append_assoc, List.cons_append]
      obtain ⟨follow, hfollow, hsealed⟩ := itemsText_cons next rest tail
      obtain ⟨c, more, hhead, hc⟩ :=
        (hrest next (List.mem_cons_self ..)).exists_head follow hsealed
      rw [← hfollow] at hhead
      have hitems := ih (List.cons_ne_nil _ _) hrest (show _ < fuel by omega)
      rw [← readItems_skipGap] at hitems
      refine .more (hread (by omega) (sealed_cons rfl _)) ?_ hhead hc ?_
      · rw [skipGap_gap hgap, skipGap_of_not_isGap rfl]
      · rw [← hhead]
        exact hitems

/-- **A list** is read from the texts of its items. -/
theorem isText_array (items : List (List Char × Draft))
    (h : ∀ item ∈ items, IsText item.1 item.2) :
    IsText ('[' :: (itemsText (items.map Prod.fst) ++ [']']))
      (.array (items.map Prod.snd) true) := by
  refine isText_of_reads ?_
  intro fuel tail hfuel htail
  rw [List.length_cons, List.length_append, List.length_singleton] at hfuel
  rw [List.cons_append, skipGap_of_not_isGap rfl, List.append_assoc, List.singleton_append]
  cases items with
  | nil => exact .noItems (skipGap_of_not_isGap rfl tail)
  | cons item rest =>
    obtain ⟨follow, hfollow, hsealed⟩ := itemsText_cons item rest tail
    obtain ⟨c, more, hhead, hc⟩ := (h item (List.mem_cons_self ..)).exists_head follow hsealed
    rw [← hfollow] at hhead
    have hitems := readItems_itemsText (item :: rest) (List.cons_ne_nil _ _) h
      (show _ < fuel by omega) tail
    rw [← readItems_skipGap] at hitems
    refine .array hhead hc ?_
    rw [← hhead]
    exact hitems

/-- The name of a member and the colon behind it. -/
theorem readString?_name (name : String) (rest : List Char) :
    ∃ body, skipGap (Json.quote name ++ ':' :: rest) = '"' :: body ∧
      readString? body = some (some name, ':' :: rest) := by
  refine ⟨Json.escape name.toList ++ '"' :: (':' :: rest), ?_, readString?_escape name _⟩
  show skipGap ('"' :: ((Json.escape name.toList ++ ['"']) ++ ':' :: rest)) = _
  rw [skipGap_of_not_isGap rfl, List.append_assoc, List.singleton_append]

/-- The text of members starts with the quotation mark of the first name. -/
theorem exists_membersText (member : String × List Char) (rest : List (String × List Char)) :
    ∃ more, membersText (member :: rest) = '"' :: more := by
  cases rest <;> exact ⟨_, rfl⟩

/-- Members are read one after the other up to the brace behind them. -/
theorem readMembers_membersText (members : List (String × List Char × Draft)) (hne : members ≠ [])
    (h : ∀ member ∈ members, IsText member.2.1 member.2.2) {fuel : Nat}
    (hfuel : (membersText (members.map fun m => (m.1, m.2.1))).length < fuel)
    (tail : List Char) :
    readMembers fuel (membersText (members.map fun m => (m.1, m.2.1)) ++ '}' :: tail) =
      (members.map fun m => (some m.1, m.2.2), some tail) := by
  induction members generalizing fuel with
  | nil => exact absurd rfl hne
  | cons member rest ih =>
    obtain ⟨name, text, draft⟩ := member
    obtain ⟨fuel, rfl⟩ : ∃ less, fuel = less + 1 := ⟨fuel - 1, by omega⟩
    obtain ⟨gap, hgap, hread⟩ : IsText text draft := h _ (List.mem_cons_self ..)
    have hcolon : ∀ after, skipGap (':' :: after) = ':' :: after := skipGap_of_not_isGap rfl
    refine readMembers_eq_iff.mpr ?_
    cases rest with
    | nil =>
      have htext : membersText (([(name, text, draft)]).map fun m => (m.1, m.2.1)) =
        Json.quote name ++ ':' :: text := rfl
      rw [htext] at hfuel ⊢
      rw [List.length_append, List.length_cons] at hfuel
      rw [List.append_assoc, List.cons_append]
      obtain ⟨body, hquote, hname⟩ := readString?_name name (text ++ '}' :: tail)
      refine .last hquote hname (hcolon _) (hread (by omega) (sealed_cons rfl tail)) ?_
      rw [skipGap_gap hgap, skipGap_of_not_isGap rfl]
    | cons next rest =>
      have hrest : ∀ member ∈ next :: rest, IsText member.2.1 member.2.2 := fun member hmem =>
        h member (List.mem_cons_of_mem _ hmem)
      have htext : membersText (((name, text, draft) :: next :: rest).map fun m => (m.1, m.2.1)) =
          Json.quote name ++
            ':' :: (text ++ ',' :: membersText ((next :: rest).map fun m => (m.1, m.2.1))) := rfl
      rw [htext] at hfuel ⊢
      rw [List.length_append, List.length_cons, List.length_append, List.length_cons] at hfuel
      rw [List.append_assoc, List.cons_append, List.append_assoc, List.cons_append]
      obtain ⟨body, hquote, hname⟩ := readString?_name name
        (text ++ ',' :: (membersText ((next :: rest).map fun m => (m.1, m.2.1)) ++ '}' :: tail))
      have hmembers := ih (List.cons_ne_nil _ _) hrest (show _ < fuel by omega)
      refine .more hquote hname (hcolon _) (hread (by omega) (sealed_cons rfl _)) ?_ hmembers
      rw [skipGap_gap hgap, skipGap_of_not_isGap rfl]

/-- **An object** is read from its names and the texts of its values. -/
theorem isText_object (members : List (String × List Char × Draft))
    (h : ∀ member ∈ members, IsText member.2.1 member.2.2) :
    IsText ('{' :: (membersText (members.map fun m => (m.1, m.2.1)) ++ ['}']))
      (.object (members.map fun m => (some m.1, m.2.2)) true) := by
  refine isText_of_reads ?_
  intro fuel tail hfuel htail
  rw [List.length_cons, List.length_append, List.length_singleton] at hfuel
  rw [List.cons_append, skipGap_of_not_isGap rfl, List.append_assoc, List.singleton_append]
  cases members with
  | nil => exact .noMembers (skipGap_of_not_isGap rfl tail)
  | cons member rest =>
    have hmembers := readMembers_membersText (member :: rest) (List.cons_ne_nil _ _) h
      (show _ < fuel by omega) tail
    rw [List.map_cons] at hmembers ⊢
    obtain ⟨more, hquote⟩ := exists_membersText (member.1, member.2.1)
      (rest.map fun m => (m.1, m.2.1))
    rw [hquote, List.cons_append] at hmembers ⊢
    exact .object (skipGap_of_not_isGap rfl _) (by decide) hmembers

/-! ## Whole texts -/

end Draft

/-- **What a whole text is decoded to** is what a draft is read as of which it is a text. -/
theorem Json.decode_of_isText {α : Type} (reader : Draft → Except Misread α) {text : String}
    {draft : Draft} (h : Draft.IsText text.toList draft) :
    Json.decode reader text = reader draft := by
  obtain ⟨gap, hgap, hread⟩ := h
  have htext : Draft.read text.toList = (draft, some gap) := by
    have hwhole := hread (Nat.lt_succ_self _) Draft.sealed_nil
    rwa [List.append_nil, List.append_nil] at hwhole
  have hend : Draft.skipGap gap = [] := List.dropWhile_eq_nil_iff.mpr hgap
  unfold Json.decode
  rw [htext]
  dsimp only [Option.map_some]
  rw [hend]
  cases reader draft <;> rfl

/-- A text that is decoded is a text of a draft. -/
theorem Json.decode_eq_ok_iff {α : Type} {reader : Draft → Except Misread α} {text : String}
    {value : α} : Json.decode reader text = .ok value ↔
      ∃ draft, Draft.IsText text.toList draft ∧ reader draft = .ok value := by
  constructor
  · intro h
    unfold Json.decode at h
    obtain ⟨draft, rest, hread⟩ : ∃ draft rest, Draft.read text.toList = (draft, rest) :=
      ⟨_, _, rfl⟩
    rw [hread] at h
    dsimp only at h
    split at h
    · exact nomatch h
    · next hvalue =>
      split at h
      · next hend =>
        cases h
        obtain ⟨gap, rfl, hgap⟩ := Option.map_eq_some_iff.mp hend
        exact ⟨draft, Draft.isText_of_read hread hgap, hvalue⟩
      · exact nomatch h
  · rintro ⟨draft, htext, hvalue⟩
    rw [Json.decode_of_isText reader htext, hvalue]

/-! ## The compact text of a value -/

namespace Json

mutual

/-- What a value is read as. -/
def draft : Json → Draft
  | .null => .null
  | .bool b => .bool b
  | .int i => .number ⟨decide (i < 0), Nat.toDigits 10 i.natAbs, [], 0⟩ true
  | .string s => .string (some s)
  | .array items => .array (itemDrafts items) true
  | .object members => .object (memberDrafts members) true

/-- What items are read as. -/
def itemDrafts : List Json → List Draft
  | [] => []
  | item :: rest => item.draft :: itemDrafts rest

/-- What members are read as. -/
def memberDrafts : List (String × Json) → List (Option String × Draft)
  | [] => []
  | (name, value) :: rest => (some name, value.draft) :: memberDrafts rest

end

theorem itemDrafts_eq (items : List Json) : itemDrafts items = items.map draft := by
  induction items with
  | nil => rfl
  | cons item rest ih => rw [itemDrafts, ih, List.map_cons]

theorem memberDrafts_eq (members : List (String × Json)) :
    memberDrafts members = members.map fun m => (some m.1, m.2.draft) := by
  induction members with
  | nil => rfl
  | cons member rest ih => rw [memberDrafts, ih, List.map_cons]

theorem itemChars_eq (items : List Json) :
    itemChars items = Draft.itemsText (items.map chars) := by
  induction items with
  | nil => rfl
  | cons item rest ih =>
    cases rest with
    | nil => rfl
    | cons next rest =>
      rw [itemChars, ih]
      · rfl
      · exact List.cons_ne_nil _ _

theorem memberChars_eq (members : List (String × Json)) :
    memberChars members = Draft.membersText (members.map fun m => (m.1, m.2.chars)) := by
  induction members with
  | nil => rfl
  | cons member rest ih =>
    cases rest with
    | nil => rfl
    | cons next rest =>
      rw [memberChars, ih]
      · rfl
      · exact List.cons_ne_nil _ _

/-- The digits of a number do not start with a zero unless they are one. -/
theorem toDigits_ne_zero_cons (n : Nat) (d : Char) (rest : List Char) :
    Nat.toDigits 10 n ≠ '0' :: d :: rest := by
  induction n using Nat.strong_induction_on generalizing d rest with
  | h n ih =>
    intro h
    by_cases hn : n < 10
    · rw [Nat.toDigits_of_lt_base hn] at h
      exact List.cons_ne_nil _ _ (List.cons.inj h).2.symm
    · rw [Nat.toDigits_of_base_le (by decide) (by omega)] at h
      cases hfront : Nat.toDigits 10 (n / 10) with
      | nil =>
        rw [hfront] at h
        exact List.cons_ne_nil _ _ (List.cons.inj h).2.symm
      | cons c more =>
        rw [hfront] at h
        obtain ⟨rfl, hmore⟩ := List.cons.inj h
        cases more with
        | nil =>
          have hzero : n / 10 = 0 := by
            have hvalue : Nat.ofDigitChars 10 (Nat.toDigits 10 (n / 10)) 0 = n / 10 :=
              Nat.ofDigitChars_ten_toDigits
            rw [← hvalue, hfront]
            rfl
          omega
        | cons e more => exact ih (n / 10) (by omega) e more hfront

/-- The digits of a number are read as a number. -/
theorem readUnsigned?_toDigits (negative : Bool) (n : Nat) :
    Draft.readUnsigned? negative (Nat.toDigits 10 n) =
      some (.number ⟨negative, Nat.toDigits 10 n, [], 0⟩ true, []) := by
  have hdigits : ∀ c ∈ Nat.toDigits 10 n, c.isDigit = true := fun c hc =>
    Nat.isDigit_of_mem_toDigits (by decide) (by decide) hc
  have hwhole : Draft.readWhole? (Nat.toDigits 10 n) = some (Nat.toDigits 10 n, []) := by
    unfold Draft.readWhole?
    rw [List.takeWhile_eq_self_iff.mpr hdigits, List.dropWhile_eq_nil_iff.mpr hdigits]
    dsimp only
    split
    · next hnil => exact absurd hnil Nat.toDigits_ne_nil
    · next hzero => exact absurd hzero (toDigits_ne_zero_cons n _ _)
    · rfl
  unfold Draft.readUnsigned?
  rw [hwhole]
  rfl

/-- A text that is read as a number, up to its end, is a text of the number. -/
theorem isText_of_readNumber? {text : List Char} {draft : Draft}
    (h : Draft.readNumber? text = some (draft, [])) : Draft.IsText text draft := by
  refine Draft.isText_of_reads ?_
  intro fuel tail _ htail
  obtain ⟨c, more, rfl, hc⟩ := Draft.head_of_readNumber? h
  have hgap : Draft.isGap c = false := by
    rcases hc with rfl | hdigit
    · rfl
    · refine Bool.eq_false_iff.mpr fun hgap => ?_
      simp only [Draft.isGap, Bool.or_eq_true, beq_iff_eq] at hgap
      rcases hgap with ((rfl | rfl) | rfl) | rfl <;> exact absurd hdigit (by decide)
  rw [List.cons_append, Draft.skipGap_of_not_isGap hgap]
  exact .number (Draft.readNumber?_append htail h)

/-- The text of a whole number is read as it. -/
theorem isText_int (i : Int) : Draft.IsText (Json.int i).chars (Json.int i).draft := by
  refine isText_of_readNumber? ?_
  cases i with
  | ofNat n =>
    have hchars : (Json.int (Int.ofNat n)).chars = Nat.toDigits 10 n := String.toList_ofList
    rw [hchars]
    cases hdigits : Nat.toDigits 10 n with
    | nil => exact absurd hdigits Nat.toDigits_ne_nil
    | cons c more =>
      have hmem : c ∈ Nat.toDigits 10 n := by simp [hdigits]
      have hc : c.isDigit = true := Nat.isDigit_of_mem_toDigits (by decide) (by decide) hmem
      have hminus : c ≠ '-' := by
        rintro rfl
        exact absurd hc (by decide)
      rw [Draft.readNumber?_of_ne hminus, ← hdigits]
      exact readUnsigned?_toDigits false n
  | negSucc n =>
    have hchars : (Json.int (Int.negSucc n)).chars = '-' :: Nat.toDigits 10 (n + 1) := by
      show ("-" ++ String.ofList (Nat.toDigits 10 (n + 1))).toList = _
      simp
    have hdraft : (Json.int (Int.negSucc n)).draft =
        .number ⟨true, Nat.toDigits 10 (n + 1), [], 0⟩ true := by
      simp [draft, Int.negSucc_lt_zero]
    rw [hchars, hdraft, Draft.readNumber?_minus]
    exact readUnsigned?_toDigits true (n + 1)

mutual

/-- **The compact text of a value** is a text of it, wherever it stands. -/
theorem isText_chars : (value : Json) → Draft.IsText value.chars value.draft
  | .null => Draft.isText_of_reads fun _ _ _ _ => .null _
  | .bool true => Draft.isText_of_reads fun _ _ _ _ => .true _
  | .bool false => Draft.isText_of_reads fun _ _ _ _ => .false _
  | .int i => isText_int i
  | .string s => by
    refine Draft.isText_of_reads ?_
    intro fuel tail _ _
    show Draft.ReadsValue fuel ('"' :: ((escape s.toList ++ ['"']) ++ tail)) _ tail
    rw [List.append_assoc]
    exact .string (Draft.readString?_escape s tail)
  | .array items => by
    have h := Draft.isText_array (items.map fun item => (item.chars, item.draft))
      (List.forall_mem_map.mpr (isText_items items))
    simpa only [chars, draft, itemChars_eq, itemDrafts_eq, List.map_map, Function.comp_def] using h
  | .object members => by
    have h := Draft.isText_object (members.map fun m => (m.1, m.2.chars, m.2.draft))
      (List.forall_mem_map.mpr (isText_members members))
    simpa only [chars, draft, memberChars_eq, memberDrafts_eq, List.map_map, Function.comp_def]
      using h

theorem isText_items : (items : List Json) → ∀ item ∈ items, Draft.IsText item.chars item.draft
  | [] => by simp
  | item :: rest => List.forall_mem_cons.mpr ⟨isText_chars item, isText_items rest⟩

theorem isText_members : (members : List (String × Json)) →
    ∀ m ∈ members, Draft.IsText m.2.chars m.2.draft
  | [] => by simp
  | (_, value) :: rest => List.forall_mem_cons.mpr ⟨isText_chars value, isText_members rest⟩

end

/-- The compact text of a value, as a whole text. -/
theorem isText_text (value : Json) : Draft.IsText value.text.toList value.draft := by
  rw [text, String.toList_ofList]
  exact isText_chars value

end Json

end Criteria

import Criteria.Proofs.Token.Word

/-!
# Blanks between tokens

Blanks behind a text that can be split are a seam: the text in front of them and the text behind
them are split on their own. So it does not matter which blanks separate tokens, or how many.

## Main definitions

* `Criteria.Token.IsGap` — one blank or more.
* `Criteria.Token.content` — what a token says, wherever it stands.
* `Criteria.Token.spaced` — texts with gaps between them.

## Main results

* `Criteria.Token.scan_append_gap` — a text, a gap and any other text.
* `Criteria.Token.scan_spaced` — texts with gaps between them say what each of them says.
* `Criteria.Token.splits_at_gaps` — how a text is split at a gap, and that gaps do not matter.
-/

set_option autoImplicit false
set_option relaxedAutoImplicit false

namespace Criteria.Token

variable {text gap rest first : List Char} {tokens : List Token}
  {others others' : List (List Char × List Char)}

/-! ## One gap -/

/-- One blank or more. -/
structure IsGap (gap : List Char) : Prop where
  /-- There is a blank. -/
  ne_nil : gap ≠ []
  /-- There is nothing else. -/
  isBlank : ∀ c ∈ gap, isBlank c = true

/-- No token goes on behind a gap. -/
theorem IsGap.parted (h : IsGap gap) (rest : List Char) : Parted (gap ++ rest) := by
  obtain ⟨c, more, rfl⟩ := List.exists_cons_of_ne_nil h.ne_nil
  have hc : Criteria.isBlank c = true := h.isBlank c (List.mem_cons_self ..)
  refine parted_cons (isWordChar_of_isBlank hc) ?_
  rintro rfl
  exact absurd hc (by decide)

/-- **A gap is a seam.** The tokens of a text, a gap and a second text are those of the first text
and those of the second, moved to their place; and a fault of the second text is moved as well. -/
theorem scan_append_gap (h : scan text = .ok tokens) (hgap : IsGap gap) (rest : List Char) :
    scan (text ++ gap ++ rest) =
      (shiftResult (text ++ gap).length (scan rest)).map (tokens ++ ·) := by
  have hmoved := scanFrom_add (text ++ gap).length 0 0 rest
  rw [Nat.zero_add] at hmoved
  unfold scan at h ⊢
  rw [List.append_assoc, scanFrom_append (hgap.parted rest) (Nat.zero_le _) h,
    scanFrom_gap hgap.isBlank, Nat.zero_add, ← List.length_append, hmoved]

/-! ## Any number of gaps -/

/-- What a token says, wherever it stands: its kind, its text and its value. -/
def content (token : Token) : TokenKind × String × Option Value :=
  (token.kind, token.text, token.value)

/-- A moved token says the same. -/
theorem content_shift (distance : Nat) (token : Token) :
    (token.shift distance).content = token.content := rfl

/-- Moved tokens say the same. -/
theorem map_content_shift (distance : Nat) (tokens : List Token) :
    (tokens.map (shift distance)).map content = tokens.map content := by
  rw [List.map_map]
  exact List.map_congr_left fun token _ => content_shift distance token

/-- A text and others behind it, each with a gap in front. -/
def spaced (first : List Char) (others : List (List Char × List Char)) : List Char :=
  first ++ others.flatMap fun other => other.1 ++ other.2

/-- The first of the texts behind a text can be counted to it. -/
theorem spaced_cons (first : List Char) (other : List Char × List Char) :
    spaced first (other :: others) = spaced (first ++ other.1 ++ other.2) others := by
  simp [spaced]

/-- What the tokens of a text say, nothing if it cannot be split. -/
def contents (text : List Char) : List (TokenKind × String × Option Value) :=
  match scan text with
  | .ok tokens => tokens.map content
  | .error _ => []

/-- **Texts with gaps between them say what each of them says,** one after the other.

**Proof sketch.** Induction on the texts behind the first. The first of them and the gap in front of
it are counted to the text that they follow, which can then be split as well
(`scan_append_gap`). -/
theorem scan_spaced (h : scan first = .ok tokens)
    (hothers : ∀ other ∈ others, IsGap other.1 ∧ ∃ tokens, scan other.2 = .ok tokens) :
    ∃ all, scan (spaced first others) = .ok all ∧
      all.map content = tokens.map content ++ others.flatMap fun other => contents other.2 := by
  induction others generalizing first tokens with
  | nil => exact ⟨tokens, by simpa [spaced] using h, by simp⟩
  | cons other others ih =>
    obtain ⟨⟨hgap, tokens', hother⟩, hothers⟩ := List.forall_mem_cons.1 hothers
    have hfirst := scan_append_gap h hgap other.2
    rw [hother] at hfirst
    obtain ⟨all, hall, hcontent⟩ := ih hfirst hothers
    have hsays : contents other.2 = tokens'.map content := by
      rw [contents, hother]
    refine ⟨all, by rwa [spaced_cons], ?_⟩
    rw [hcontent, List.map_append, map_content_shift, List.flatMap_cons, hsays, List.append_assoc]

/-- **A text is split at its gaps.**

1. The tokens of a text, a gap and a second text are those of the first text, followed by those of
the second, both offsets of which are moved by the characters in front; if the second text cannot be
split, then its fault is the fault, moved by as much.
2. Texts with gaps between them that can be split each on its own have tokens of the same kinds,
texts and values whatever the gaps are. -/
theorem splits_at_gaps :
    (∀ text tokens gap rest, scan text = .ok tokens → IsGap gap →
      scan (text ++ gap ++ rest) = match scan rest with
        | .ok tokens' => .ok (tokens ++ tokens'.map (shift (text ++ gap).length))
        | .error fault => .error (fault.shift (text ++ gap).length)) ∧
    ∀ first others others', (∃ tokens, scan first = .ok tokens) →
      (∀ other ∈ others, IsGap other.1 ∧ ∃ tokens, scan other.2 = .ok tokens) →
      (∀ other ∈ others', IsGap other.1) → others'.map Prod.snd = others.map Prod.snd →
        ∃ tokens tokens', scan (spaced first others) = .ok tokens ∧
          scan (spaced first others') = .ok tokens' ∧
          tokens'.map content = tokens.map content := by
  constructor
  · intro text tokens gap rest h hgap
    rw [scan_append_gap h hgap]
    cases scan rest <;> rfl
  · rintro first others others' ⟨tokens, hfirst⟩ hothers hgaps hsame
    have hothers' : ∀ other ∈ others', IsGap other.1 ∧ ∃ tokens, scan other.2 = .ok tokens := by
      intro other hother
      have hmem : other.2 ∈ others.map Prod.snd := hsame ▸ List.mem_map_of_mem hother
      obtain ⟨same, hmem, htext⟩ := List.mem_map.1 hmem
      exact ⟨hgaps other hother, htext ▸ (hothers same hmem).2⟩
    obtain ⟨all, hall, hcontent⟩ := scan_spaced hfirst hothers
    obtain ⟨all', hall', hcontent'⟩ := scan_spaced hfirst hothers'
    have hsays : (others'.flatMap fun other => contents other.2) =
        others.flatMap fun other => contents other.2 := by
      rw [← List.flatMap_map Prod.snd contents, ← List.flatMap_map Prod.snd contents, hsame]
    exact ⟨all, all', hall, hall', by rw [hcontent', hcontent, hsays]⟩

/-- A word in front of a quoted text that has blanks in it, with a tabulator and an ideographic
space between them or one blank; and a second text of which the quotation mark is not closed. -/
theorem splits_at_gaps_quoted :
    scan "x>\t\u3000'a b'".toList =
      .ok [⟨.identifier, "x", 0, 1, none⟩, ⟨.comparator, ">", 1, 2, none⟩,
        ⟨.literal, "a b", 4, 9, some (.string "a b")⟩] ∧
    scan "x>\t\u3000'a b".toList = .error (.unrecognized '\'' 4) ∧
    ∃ tokens tokens', scan "x> 'a b'".toList = .ok tokens ∧
      scan "x>\t\u3000'a b'".toList = .ok tokens' ∧
      tokens'.map content = tokens.map content := by
  obtain ⟨hseam, hgaps⟩ := splits_at_gaps
  have hword : scan "x>".toList =
      .ok [⟨.identifier, "x", 0, 1, none⟩, ⟨.comparator, ">", 1, 2, none⟩] := rfl
  have hquoted : scan "'a b'".toList = .ok [⟨.literal, "a b", 0, 5, some (.string "a b")⟩] := rfl
  have hunclosed : scan "'a b".toList = .error (.unrecognized '\'' 0) := rfl
  have hgap : IsGap "\t\u3000".toList := ⟨by decide, List.all_eq_true.1 (by decide)⟩
  have hblank : IsGap " ".toList := ⟨by decide, List.all_eq_true.1 (by decide)⟩
  refine ⟨?_, ?_, ?_⟩
  · have h := hseam _ _ _ "'a b'".toList hword hgap
    rw [hquoted] at h
    exact h
  · have h := hseam _ _ _ "'a b".toList hword hgap
    rw [hunclosed] at h
    exact h
  · exact hgaps "x>".toList [(" ".toList, "'a b'".toList)] [("\t\u3000".toList, "'a b'".toList)]
      ⟨_, hword⟩ (List.forall_mem_singleton.2 ⟨hblank, _, hquoted⟩)
      (List.forall_mem_singleton.2 hgap) rfl

end Criteria.Token

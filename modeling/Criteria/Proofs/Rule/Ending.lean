import Criteria.Proofs.Rule.Viability
import Criteria.Proofs.Token.Obstacle

/-!
# Where a text ends

A rule is read from a text, or from tokens alone, which do not tell how many blanks follow the last
of them. The two readings differ in nothing but the offset of the fault that the input ends too
early.

## Main definitions

* `Criteria.Fault.offset?` — where a fault of a text is.
* `Criteria.Rule.AgreeUpToEnd` — readings that differ at most in where the input ends.

## Main results

* `Criteria.Rule.ofTokensUpTo_agree` — where the text behind tokens ends changes one offset only.
* `Criteria.Token.Tiles.getLast?_stop` — a text that does not end with a blank ends with a token.
* `Criteria.Rule.offset_le_of_ofText` — a fault of a text is within the text.
* `Criteria.Rule.readings_agree` — a text and its tokens are read alike.
-/

set_option autoImplicit false
set_option relaxedAutoImplicit false

namespace Criteria

/-- Where a fault of a text is: how many characters come before it. -/
def Fault.offset? : Fault → Option Nat
  | .unrecognized _ offset => some offset
  | .unexpected _ _ offset => some offset
  | _ => none

/-! ## Faults of tokens -/

/-- A token that cannot be read is one of those to be read. -/
theorem Parse.mem_of_run {tokens : List Token} {token : Token} {expected : Expectation}
    (h : run tokens = .error ⟨some token, expected⟩) : token ∈ tokens := by
  unfold run at h
  cases hread : tokens.foldlM step .start with
  | error obstacle =>
    rw [hread] at h
    obtain rfl : obstacle = ⟨some token, expected⟩ := Except.error.inj h
    obtain ⟨index, stopper, next, hstopper, -, hstep⟩ := exists_foldlM_eq_error hread
    obtain rfl : token = stopper := Option.some.inj (found_of_step hstep)
    exact List.mem_of_getElem? hstopper
  | ok state =>
    rw [hread] at h
    have hfinish : finish state = .error ⟨some token, expected⟩ := h
    cases found_of_finish hfinish

namespace Rule

/-- Two outcomes of reading that differ at most in where the input ends, for one at `stop` and for
the other at `stop'`: the same rule, the same fault at a token, or the fault that the input ends too
early with the two offsets. -/
inductive AgreeUpToEnd (stop stop' : Nat) : Except Fault Rule → Except Fault Rule → Prop where
  /-- Both are the same rule. -/
  | rule (rule : Rule) : AgreeUpToEnd stop stop' (.ok rule) (.ok rule)
  /-- Both are the same fault, and it is not that the input ends. -/
  | token (found expected : String) (offset : Nat) (hfound : found ≠ "输入结束") :
      AgreeUpToEnd stop stop' (.error (.unexpected found expected offset))
        (.error (.unexpected found expected offset))
  /-- In both the input ends where the same is expected. -/
  | ending (expected : String) :
      AgreeUpToEnd stop stop' (.error (.unexpected "输入结束" expected stop))
        (.error (.unexpected "输入结束" expected stop'))

/-- Readings that agree and have one end are equal. -/
theorem AgreeUpToEnd.eq {stop : Nat} {first second : Except Fault Rule}
    (h : AgreeUpToEnd stop stop first second) : first = second := by
  cases h <;> rfl

/-- A token between quotation marks is not the end of the input. -/
theorem quoted_ne_ending (text : String) : s!"'{text}'" ≠ "输入结束" := by
  intro h
  have hchars := congrArg String.toList h
  simp [toString] at hchars

/-- **Where the text behind tokens ends changes one offset only.** -/
theorem ofTokensUpTo_agree (stop stop' : Nat) (tokens : List Token) :
    AgreeUpToEnd stop stop' (ofTokensUpTo stop tokens) (ofTokensUpTo stop' tokens) := by
  unfold ofTokensUpTo
  cases Parse.run tokens with
  | ok rule => exact .rule rule
  | error obstacle =>
    obtain ⟨found, expected⟩ := obstacle
    cases found with
    | some token => exact .token _ expected.text token.offset (quoted_ne_ending token.text)
    | none => exact .ending expected.text

/-- A text that can be split is read as its tokens are, with its own end. -/
theorem ofText_of_scan {text : String} {tokens : List Token}
    (h : Token.scan text.toList = .ok tokens) : ofText text = ofTokensUpTo text.length tokens := by
  rw [ofText, h]
  rfl

/-- A text that cannot be split is refused for the reason for which it cannot. -/
theorem ofText_of_scan_error {text : String} {fault : Fault}
    (h : Token.scan text.toList = .error fault) : ofText text = .error fault := by
  rw [ofText, h]
  rfl

end Rule

/-! ## Ends of texts -/

namespace Token

variable {before rest text : List Char} {tokens : List Token} {fault : Fault}

/-- The tokens of a text tile it. -/
theorem tiles_of_scan (h : scan text = .ok tokens) : Tiles [] text tokens :=
  tiles_of_scanFrom (fun _ hc => by cases hc) h

/-- No tokens tile nothing. -/
theorem Tiles.eq_nil (h : Tiles before [] tokens) : tokens = [] := by
  refine List.eq_nil_iff_forall_not_mem.2 fun token htoken => ?_
  have hbounds := h.bounds token htoken
  rw [List.length_nil] at hbounds
  omega

/-- **A text that does not end with a blank ends with a token.** -/
theorem Tiles.getLast?_stop (h : Tiles before rest tokens) (hne : rest ≠ [])
    (hlast : ∀ c ∈ rest.getLast?, Criteria.isBlank c = false) :
    tokens.getLast?.map (·.stop) = some (before.length + rest.length) := by
  induction h with
  | nil => exact absurd rfl hne
  | @blank before rest c tokens hc _ ih =>
    have hmore : rest ≠ [] := by
      rintro rfl
      rw [hlast c rfl] at hc
      cases hc
    rw [List.getLast?_cons_of_ne_nil hmore] at hlast
    rw [ih hmore hlast, List.length_append, List.length_singleton, List.length_cons]
    congr 1
    omega
  | @token before span rest token tokens _ hstop hspan _ h ih =>
    cases rest with
    | nil =>
      obtain rfl := h.eq_nil
      rw [List.append_nil, List.getLast?_singleton, Option.map_some, hstop]
    | cons c rest =>
      have hmore := ih (List.cons_ne_nil c rest)
        (by rwa [List.getLast?_append_of_ne_nil _ (List.cons_ne_nil c rest)] at hlast)
      have htokens : tokens ≠ [] := by
        rintro rfl
        cases hmore
      rw [List.getLast?_cons_of_ne_nil htokens, hmore, List.length_append, List.length_append]
      congr 1
      omega

/-- The last token of a text that does not end with a blank ends where the text does. -/
theorem stop_of_scan (h : scan text = .ok tokens)
    (hlast : ∀ c ∈ text.getLast?, isBlank c = false) :
    (tokens.getLast?.map (·.stop)).getD 0 = text.length := by
  have htiles := tiles_of_scan h
  rcases eq_or_ne text [] with rfl | hne
  · rw [htiles.eq_nil]
    rfl
  · rw [htiles.getLast?_stop hne hlast, Option.getD_some, List.length_nil, Nat.zero_add]

/-- An obstacle is where its fault says. -/
theorem Obstacle.offset? {offset : Nat} (h : Obstacle offset rest fault) :
    fault.offset? = some offset := by
  cases h <;> rfl

/-- What stops the splitting of a text is within the text. -/
theorem offset_le_of_scan (h : scan text = .error fault) :
    ∃ offset, fault.offset? = some offset ∧ offset ≤ text.length := by
  obtain ⟨before, rest, tokens, rfl, -, -, hobstacle⟩ := scan_eq_error_iff.1 h
  refine ⟨before.length, hobstacle.offset?, ?_⟩
  rw [List.length_append]
  exact Nat.le_add_right _ _

end Token

namespace Rule

/-- **A fault of a text is within the text.**

**Proof sketch.** A text that cannot be split has an obstacle in it. What is refused behind that is
a token, which lies in the text (`Token.Tiles.bounds`), or the end of the text. -/
theorem offset_le_of_ofText {text : String} {fault : Fault} (h : ofText text = .error fault) :
    ∃ offset, fault.offset? = some offset ∧ offset ≤ text.length := by
  rw [← String.length_toList]
  cases hscan : Token.scan text.toList with
  | error fault' =>
    rw [ofText_of_scan_error hscan] at h
    obtain rfl := Except.error.inj h
    exact Token.offset_le_of_scan hscan
  | ok tokens =>
    rw [ofText_of_scan hscan, ofTokensUpTo] at h
    cases hrun : Parse.run tokens with
    | ok rule =>
      rw [hrun] at h
      cases h
    | error obstacle =>
      rw [hrun] at h
      obtain rfl := Except.error.inj h
      obtain ⟨found, expected⟩ := obstacle
      cases found with
      | some token =>
        have hbounds := (Token.tiles_of_scan hscan).bounds token (Parse.mem_of_run hrun)
        rw [List.length_nil, Nat.zero_add] at hbounds
        exact ⟨token.offset, rfl, by omega⟩
      | none => exact ⟨text.length, rfl, by rw [String.length_toList]⟩

/-- **A text and its tokens are read alike.** A text that cannot be split is refused for that
reason. Otherwise it is read as its tokens are, except that the fault that the input ends too early
is where the text ends, and for the tokens where the last of them ends; so there is no difference if
the text does not end with a blank. Whatever the fault of a text, it is within the text. -/
theorem readings_agree (text : String) :
    (∀ fault, Token.scan text.toList = .error fault → ofText text = .error fault) ∧
    (∀ tokens, Token.scan text.toList = .ok tokens →
      AgreeUpToEnd text.length ((tokens.getLast?.map (·.stop)).getD 0)
        (ofText text) (ofTokens tokens) ∧
      ((∀ c ∈ text.toList.getLast?, isBlank c = false) → ofText text = ofTokens tokens)) ∧
    ∀ fault, ofText text = .error fault →
      ∃ offset, fault.offset? = some offset ∧ offset ≤ text.length := by
  refine ⟨fun _ => ofText_of_scan_error, fun tokens hscan => ?_, fun _ => offset_le_of_ofText⟩
  have hagree : AgreeUpToEnd text.length ((tokens.getLast?.map (·.stop)).getD 0)
      (ofText text) (ofTokens tokens) := by
    rw [ofText_of_scan hscan]
    exact ofTokensUpTo_agree _ _ tokens
  refine ⟨hagree, fun hlast => ?_⟩
  rw [Token.stop_of_scan hscan hlast, String.length_toList] at hagree
  exact hagree.eq

/-- A text that ends behind a connective with a blank, where the two readings have different
offsets, and without it, where they are equal; and a text with an unclosed quotation mark. -/
theorem readings_agree_connective :
    (∃ tokens, Token.scan "a = b OR ".toList = .ok tokens ∧
      AgreeUpToEnd 9 8 (ofText "a = b OR ") (ofTokens tokens)) ∧
    (∃ tokens, Token.scan "a = b OR".toList = .ok tokens ∧
      ofText "a = b OR" = ofTokens tokens) ∧
    ofText "a = 'b" = .error (.unrecognized '\'' 4) ∧
    ∃ offset, (Fault.unrecognized '\'' 4).offset? = some offset ∧ offset ≤ "a = 'b".length := by
  have hblank : ∃ tokens, Token.scan "a = b OR ".toList = .ok tokens ∧
      (tokens.getLast?.map (·.stop)).getD 0 = 8 := ⟨_, rfl, rfl⟩
  have hclose : ∃ tokens, Token.scan "a = b OR".toList = .ok tokens := ⟨_, rfl⟩
  have hlast : ∀ c ∈ "a = b OR".toList.getLast?, isBlank c = false := by
    rintro c ⟨⟩
    decide
  have hunclosed : Token.scan "a = 'b".toList = .error (.unrecognized '\'' 4) := rfl
  obtain ⟨hsplit, -, hwithin⟩ := readings_agree "a = 'b"
  have hrefused := hsplit _ hunclosed
  refine ⟨?_, ?_, hrefused, hwithin _ hrefused⟩
  · obtain ⟨tokens, hscan, hstop⟩ := hblank
    have hagree := ((readings_agree "a = b OR ").2.1 tokens hscan).1
    rw [hstop] at hagree
    exact ⟨tokens, hscan, hagree⟩
  · obtain ⟨tokens, hscan⟩ := hclose
    exact ⟨tokens, hscan, ((readings_agree "a = b OR").2.1 tokens hscan).2 hlast⟩

end Rule

end Criteria

import Criteria.Evaluation.Basic
import Criteria.Json.Decode
import Criteria.Proofs.Json.Numeral
import Criteria.Proofs.Rule.Spelling
import Criteria.Proofs.Token.Obstacle

/-!
# Numerals in rules and in records

The same numeral stands in the text of a rule and in the JSON text of a record. Either text is
refused if the numeral comes to infinity, and else the comparison of what was read decides.

## Main definitions

* `Criteria.Rule.comparisonText` — the text that compares a field with a numeral.
* `Criteria.Record.fieldText` — the JSON text of a record whose only field is a numeral.

## Main results

* `Criteria.Rule.ofText_comparisonText` — what the text of a comparison is read as.
* `Criteria.Record.ofJson_fieldText` — what the text of a field is read as.
* `Criteria.Numeral.same_in_rule_and_record` — when a numeral means the same in both.
-/

set_option autoImplicit false
set_option relaxedAutoImplicit false

namespace Criteria

variable {name text : String} {n : Numeral}

/-! ## Numerals in rules -/

namespace Token

/-- A numeral of the JSON grammar is a numeral among words. -/
theorem numeral?_of_isJson (h : n.IsJson text.toList) : numeral? text.toList = some n := by
  rw [numeral?, if_pos h.any_isDigit, h.read?_eq]

/-- A numeral of the JSON grammar consists of word characters. -/
theorem isWordChar_of_isJson (h : n.IsJson text.toList) :
    ∀ c ∈ text.toList, isWordChar c = true := by
  have hother : ∀ c ∈ ['e', 'E', '+', '-', '.'], isWordChar c = true :=
    List.all_eq_true.mp (by decide)
  intro c hc
  rcases h.mem_cases hc with hdigit | hmem
  · exact isWordChar_of_isDigit hdigit
  · exact hother c hmem

/-- A finite numeral is one token, the literal of its number. -/
theorem scan_of_finite (h : n.IsJson text.toList) (hfinite : n.number.isFinite = true) :
    ∃ right, scan text.toList = .ok [right] ∧ right.rightHandSide? = some (.number n.number) := by
  have hne : text.toList ≠ [] := by
    intro hnil
    simpa [hnil] using h.any_isDigit
  have hscan := scanFrom_word hne (isWordChar_of_isJson h)
    (ofWord_of_numeral? 0 _ (numeral?_of_isJson h) hfinite)
  exact ⟨_, hscan, rfl⟩

/-- The fault of a numeral that comes to infinity. -/
def beyond (text : String) (offset : Nat) : Fault :=
  .unexpected s!"'{text}'" "有限范围内的数值" offset

/-- A numeral that comes to infinity is an obstacle. -/
theorem obstacle_of_infinite (h : n.IsJson text.toList) (hinfinite : n.number.isFinite = false)
    (offset : Nat) : Obstacle offset text.toList (beyond text offset) := by
  have htake : text.toList.takeWhile isWordChar = text.toList :=
    List.takeWhile_eq_self_iff.mpr (isWordChar_of_isJson h)
  have hbeyond : Numeral.finiteBound ≤ |n.worth| := by
    rw [← not_lt, ← Numeral.isFinite_number_iff, hinfinite]
    exact Bool.false_ne_true
  have hnumeral : numeral? (text.toList.takeWhile isWordChar) = some n := by
    rw [htake]
    exact numeral?_of_isJson h
  have hobstacle : Obstacle offset _ _ := .numeral hnumeral hbeyond
  rwa [htake, String.ofList_toList] at hobstacle

end Token

namespace Rule

/-- The text that compares a field with a numeral. -/
def comparisonText (name : String) (comparator : Comparator) (text : String) : String :=
  name ++ " " ++ comparator.symbol ++ " " ++ text

/-- The condition that compares a field with a number. -/
def comparison (name : String) (comparator : Comparator) (number : Number) : Rule :=
  .condition ⟨name, comparator, .number number⟩

/-- The text of a comparison is its parts with blanks between them. -/
theorem toList_comparisonText (name : String) (comparator : Comparator) (text : String) :
    (comparisonText name comparator text).toList =
      name.toList ++ ' ' :: (comparator.symbol.toList ++ ' ' :: text.toList) := by
  simp [comparisonText]

/-- The text of a comparison is refused if its numeral comes to infinity. -/
theorem scan_comparisonText_of_infinite (hname : isName name = true) (h : n.IsJson text.toList)
    (hinfinite : n.number.isFinite = false) (comparator : Comparator) :
    Token.scan (comparisonText name comparator text).toList =
      .error (Token.beyond text (name.length + comparator.symbol.length + 2)) := by
  obtain ⟨left, hscanLeft, -⟩ := isName_iff.mp hname
  obtain ⟨symbol, hscanSymbol, -⟩ := comparator.scan_symbol
  let front := name.toList ++ ' ' :: (comparator.symbol.toList ++ [' '])
  have hfront : (comparisonText name comparator text).toList = front ++ text.toList := by
    simp [toList_comparisonText, front]
  have hlength : front.length = name.length + comparator.symbol.length + 2 := by
    rw [List.length_append, List.length_cons, List.length_append, List.length_singleton,
      String.length_toList, String.length_toList]
    omega
  have hjoin : Token.Unjoined front text.toList := by
    have hlast : front = (name.toList ++ ' ' :: comparator.symbol.toList) ++ [' '] := by
      simp [front]
    rw [hlast]
    exact Token.unjoined_of_last (by decide)
  rw [hfront, ← hlength]
  exact Token.scan_of_obstacle
    (Token.scan_append_blank hscanLeft (Token.scan_append_blank hscanSymbol rfl)) hjoin
    (Token.obstacle_of_infinite h hinfinite front.length)

/-- **What the text of a comparison is read as:** the comparison with what the numeral is rounded
to, unless that is infinite. -/
theorem ofText_comparisonText (hname : isName name = true) (h : n.IsJson text.toList)
    (comparator : Comparator) : ofText (comparisonText name comparator text) =
      if n.number.isFinite = true then .ok (comparison name comparator n.number)
      else .error (Token.beyond text (name.length + comparator.symbol.length + 2)) := by
  split
  · next hfinite =>
    have hspells : Spells .operand 0 (comparisonText name comparator text).toList
        (comparison name comparator n.number) := by
      rw [toList_comparisonText]
      exact Condition.spells_parts (c := ⟨name, comparator, .number n.number⟩) hname
        (Token.scan_of_finite h hfinite)
    rw [ofText_eq_ok_iff]
    exact (hspells.mono (Nat.zero_le _)).loosen (Phrase.precedence_disj_le _)
  · next hinfinite =>
    rw [ofText, scan_comparisonText_of_infinite hname h (Bool.eq_false_iff.mpr hinfinite)]
    rfl

end Rule

/-! ## Numerals in records -/

namespace Record

/-- The JSON text of a record whose only field is a numeral. -/
def fieldText (name text : String) : String :=
  String.ofList ('{' :: (Json.quote name ++ ':' :: ' ' :: (text.toList ++ ['}'])))

/-- A blank may stand in front of a value. -/
theorem isText_blank {text : List Char} {draft : Draft} (h : Draft.IsText text draft) :
    Draft.IsText (' ' :: text) draft := by
  obtain ⟨gap, hgap, hread⟩ := h
  refine ⟨gap, hgap, ?_⟩
  intro fuel tail hfuel htail
  have hskip : Draft.skipGap (' ' :: text ++ tail) = Draft.skipGap (text ++ tail) := rfl
  rw [← Draft.readValue_skipGap, hskip, Draft.readValue_skipGap]
  exact hread (by rw [List.length_cons] at hfuel; omega) htail

/-- The draft of an object with one member is a record if the member is a field. -/
theorem readRecord_singleton (levels : Nat) (name : String) (draft : Draft) :
    (Draft.object [(some name, draft)] true).readRecord (levels + 1) =
      (draft.readField levels).map (Table.empty.insert name) := by
  rw [Draft.readRecord, Draft.readFields]
  cases draft.readField levels <;> rfl

/-- The draft of a numeral is a field unless the numeral comes to infinity. -/
theorem readField_number (levels : Nat) (n : Numeral) (isWhole : Bool) :
    (Draft.number n isWhole).readField levels =
      if n.recorded.isFinite = true then .ok (.number (.signed n.negative n.recorded))
      else .error .malformed := by
  -- The reading of numerals is a variable here, so that no step computes with powers of ten.
  obtain ⟨read, hread⟩ : ∃ read, read = Numeral.approximate? := ⟨_, rfl⟩
  have happroximate := n.approximate?_eq
  rw [Draft.readField.eq_def, ← hread]
  rw [← hread] at happroximate
  dsimp only
  rw [happroximate]
  by_cases hfinite : n.recorded.isFinite = true
  · rw [if_pos hfinite, if_pos hfinite]
  · rw [if_neg hfinite, if_neg hfinite]

/-- **What the text of a field is read as:** the field with the number that the numeral comes to in
a JSON text, unless that is infinite. -/
theorem ofJson_fieldText (name : String) (h : n.IsJson text.toList) :
    ofJson (fieldText name text) =
      if n.recorded.isFinite = true then
        .ok (Table.empty.insert name (.number (.signed n.negative n.recorded)))
      else .error .unreadableJson := by
  obtain ⟨isWhole, hread⟩ := h.exists_readNumber?
  have hvalue := isText_blank (Json.isText_of_readNumber? hread)
  have htext : (fieldText name text).toList =
      '{' :: (Draft.membersText [(name, ' ' :: text.toList)] ++ ['}']) := by
    simp [fieldText, Draft.membersText]
  have hobject : Draft.IsText (fieldText name text).toList
      (.object [(some name, .number n isWhole)] true) := by
    rw [htext]
    exact Draft.isText_object [(name, ' ' :: text.toList, .number n isWhole)]
      (List.forall_mem_singleton.mpr hvalue)
  have hlevels : maxLevels = 126 + 1 := rfl
  rw [ofJson, Json.decode_of_isText _ hobject, hlevels, readRecord_singleton, readField_number]
  split
  · rfl
  · rfl

end Record

/-! ## Comparing the two -/

namespace Number

/-- Numbers of one sign are equal if and only if their magnitudes are. -/
theorem equals_signed_iff (negative : Bool) (m m' : Magnitude) :
    (signed negative m).equals (.signed negative m') = true ↔ m = m' := by
  have hrank : m.rank = m'.rank ↔ m = m' := ⟨Magnitude.ext_rank, fun h => h ▸ rfl⟩
  rw [← hrank]
  cases negative <;> simp [equals, position?]

/-- A number below what is near to another is not far above the other. -/
theorem position_lt_of_below {a : Number} {negative : Bool} {m m' : Magnitude}
    (hnear : Magnitude.Near m m') (h : a.below (.signed negative m) = true) {p q : Int}
    (hp : a.position? = some p) (hq : (signed negative m').position? = some q) : p < q + 6 := by
  unfold Magnitude.Near at hnear
  unfold below at h
  rw [hp] at h
  -- the other number is as far from zero with either sign
  cases negative
  all_goals
    obtain rfl := Option.some.inj hq
    have hlt := of_decide_eq_true h
    omega

end Number

namespace Rule

variable {other : String} {m : Numeral} {comparator : Comparator} {rule : Rule} {record : Record}

/-- A comparison with a number decides between two numbers. -/
theorem evaluate_comparison (name : String) (comparator : Comparator) (a b : Number) :
    (comparison name comparator b).evaluate (Table.empty.insert name (.number a)) =
      .ok (comparator.holdsOfNumbers a b) := by
  have hfield : (Table.empty.insert name (Value.number a)).get? name = some (.number a) := by
    rw [Table.get?_insert, if_pos rfl]
  have hsupports : comparator.supports (Value.number b).kind = true := by
    cases comparator <;> rfl
  rw [comparison, evaluate, hfield]
  unfold Condition.evaluate Value.compare
  dsimp only
  rw [if_pos hsupports]

/-- **What a numeral in a rule says of a numeral in a record:** the comparison of what both are read
as. -/
theorem evaluate_of_numerals (hname : isName name = true) (hn : n.IsJson text.toList)
    (hm : m.IsJson other.toList) (hrule : ofText (comparisonText name comparator text) = .ok rule)
    (hrecord : Record.ofJson (Record.fieldText name other) = .ok record) :
    rule.evaluate record =
      .ok (comparator.holdsOfNumbers (.signed m.negative m.recorded) n.number) := by
  rw [ofText_comparisonText hname hn] at hrule
  rw [Record.ofJson_fieldText name hm] at hrecord
  split at hrule
  · split at hrecord
    · obtain rfl := Except.ok.inj hrule
      obtain rfl := Except.ok.inj hrecord
      exact evaluate_comparison name comparator _ _
    · cases hrecord
  · cases hrule

end Rule

namespace Numeral

open Magnitude

/-- Numbers of the JSON grammar have digits where digits belong. -/
theorem IsJson.isDigital (h : n.IsJson text.toList) : n.IsDigital :=
  ⟨h.isDigit_whole, h.isDigit_fraction⟩

/-- What a rule reads is finite if the magnitude is. -/
theorem isFinite_number (n : Numeral) : n.number.isFinite = n.decimal.nearest.isFinite := by
  rw [number, Number.isFinite]

/-- **A numeral in a rule equals itself in a record if and only if both readings are the same,** and
finite. -/
theorem equals_itself_iff (hname : isName name = true) (h : n.IsJson text.toList) :
    (∃ rule record, Rule.ofText (Rule.comparisonText name .eq text) = .ok rule ∧
      Record.ofJson (Record.fieldText name text) = .ok record ∧ rule.evaluate record = .ok true) ↔
      n.recorded = n.decimal.nearest ∧ n.recorded.isFinite = true := by
  have hsame : (Number.signed n.negative n.recorded).equals n.number = true ↔
      n.recorded = n.decimal.nearest := by
    rw [number, Number.equals_signed_iff]
  constructor
  · rintro ⟨rule, record, hrule, hrecord, htrue⟩
    rw [Rule.evaluate_of_numerals hname h h hrule hrecord] at htrue
    refine ⟨hsame.mp (Except.ok.inj htrue), ?_⟩
    by_contra hinfinite
    rw [Record.ofJson_fieldText name h, if_neg hinfinite] at hrecord
    cases hrecord
  · rintro ⟨heq, hfinite⟩
    have hfinite' : n.number.isFinite = true := by
      rw [isFinite_number, ← heq, hfinite]
    have hrule := Rule.ofText_comparisonText hname h .eq
    have hrecord := Record.ofJson_fieldText name h
    rw [if_pos hfinite'] at hrule
    rw [if_pos hfinite] at hrecord
    refine ⟨_, _, hrule, hrecord, ?_⟩
    rw [Rule.evaluate_comparison]
    exact congrArg Except.ok (hsame.mpr heq)

/-- **A numeral means the same in a rule and in a record, if it is short.** Of every number of the
JSON grammar:

1. a rule with it is refused only if what it is rounded to is infinite;
2. a record with it is refused only if what it comes to in a JSON text is infinite;
3. the two are at most six places apart, infinity counted as a place;
4. it equals itself if and only if they are the same and finite;
5. they are if it has few digits and a small exponent;
6. what it says of another numeral is decided by what both are read as. If it is exceeded by one
   that is read the same in both texts, then it is worth less; and in no case is it exceeded by one
   that is rounded to something six places less.

**Proof sketch.** Both texts come apart into the name, the numeral and what stands around them, and
the numeral is the same for both readers. Its two readings are near to each other by the errors of
each rounding, and equal where only the last rounding has one. -/
theorem same_in_rule_and_record (hname : isName name = true) (h : n.IsJson text.toList) :
    (∀ comparator, Rule.ofText (Rule.comparisonText name comparator text) =
      if n.number.isFinite = true then .ok (Rule.comparison name comparator n.number)
      else .error (Token.beyond text (name.length + comparator.symbol.length + 2))) ∧
    (Record.ofJson (Record.fieldText name text) =
      if n.recorded.isFinite = true then
        .ok (Table.empty.insert name (.number (.signed n.negative n.recorded)))
      else .error .unreadableJson) ∧
    Near n.recorded n.decimal.nearest ∧
    ((∃ rule record, Rule.ofText (Rule.comparisonText name .eq text) = .ok rule ∧
      Record.ofJson (Record.fieldText name text) = .ok record ∧ rule.evaluate record = .ok true) ↔
      n.recorded = n.decimal.nearest ∧ n.recorded.isFinite = true) ∧
    (n.Short → n.recorded = n.decimal.nearest ∧ n.recorded.isFinite = true) ∧
    (∀ (m : Numeral) (other : String) (comparator : Comparator) (rule : Rule) (record : Record),
      m.IsJson other.toList →
      Rule.ofText (Rule.comparisonText name comparator text) = .ok rule →
      Record.ofJson (Record.fieldText name other) = .ok record →
      rule.evaluate record =
        .ok (comparator.holdsOfNumbers (.signed m.negative m.recorded) n.number) ∧
      (comparator = .gt → rule.evaluate record = .ok true →
        (m.recorded = m.decimal.nearest → n.worth < m.worth) ∧
        ∀ p q, n.number.position? = some p → m.number.position? = some q → p < q + 6)) := by
  refine ⟨Rule.ofText_comparisonText hname h, Record.ofJson_fieldText name h,
    recorded_near h.isDigital, equals_itself_iff hname h, recorded_of_short, ?_⟩
  intro m other comparator rule record hm hrule hrecord
  have hevaluate := Rule.evaluate_of_numerals hname h hm hrule hrecord
  refine ⟨hevaluate, ?_⟩
  rintro rfl htrue
  rw [hevaluate] at htrue
  have hbelow : n.number.below (.signed m.negative m.recorded) = true := Except.ok.inj htrue
  constructor
  · intro hsame
    rw [hsame, ← number] at hbelow
    exact worth_lt_of_below hbelow
  · intro p q hp hq
    rw [number] at hq
    exact Number.position_lt_of_below (recorded_near hm.isDigital) hbelow hp hq

/-- The numeral `0.25`. -/
def quarter : Numeral := ⟨false, ['0'], ['2', '5'], 0⟩

/-- The numeral `0.5`. -/
def half : Numeral := ⟨false, ['0'], ['5'], 0⟩

/-- A numeral that starts with `0.` and has no exponent is a number of the JSON grammar. -/
theorem isJson_fraction {fraction : List Char} (hne : fraction ≠ [])
    (hdigits : fraction.all Char.isDigit = true) :
    IsJson ⟨false, ['0'], fraction, 0⟩ ('0' :: '.' :: fraction) where
  whole_ne_nil := List.cons_ne_nil _ _
  eq_nil_of_zero rest h := (List.cons.inj h).2.symm
  isDigit := List.forall_mem_cons.mpr ⟨by decide, List.all_eq_true.mp hdigits⟩
  text_eq := by
    refine ⟨[], .none, ?_⟩
    rw [Decimal.pointed, if_neg hne, List.append_nil]
    rfl

/-- A quarter equals itself and is exceeded by a half. -/
theorem same_in_rule_and_record_quarter :
    isName "x" = true ∧ quarter.IsJson "0.25".toList ∧ quarter.Short ∧
    (∃ rule record, Rule.ofText "x = 0.25" = .ok rule ∧
      Record.ofJson "\x7b\"x\": 0.25\x7d" = .ok record ∧ rule.evaluate record = .ok true) ∧
    half.IsJson "0.5".toList ∧
    ∃ rule record, Rule.ofText "x > 0.25" = .ok rule ∧
      Record.ofJson "\x7b\"x\": 0.5\x7d" = .ok record ∧ rule.evaluate record = .ok true ∧
      quarter.worth < half.worth := by
  have hname : isName "x" = true := by decide
  have hquarter : quarter.IsJson "0.25".toList := isJson_fraction (by decide) (by decide)
  have hhalf : half.IsJson "0.5".toList := isJson_fraction (by decide) (by decide)
  have hshort : quarter.Short := by decide +kernel
  obtain ⟨hrule, -, -, hitself, hsame, hother⟩ := same_in_rule_and_record hname hquarter
  obtain ⟨-, hrecord, -, -, hsame', -⟩ := same_in_rule_and_record hname hhalf
  have hhalf' := hsame' (by decide +kernel)
  rw [if_pos hhalf'.2] at hrecord
  have hgt := hrule .gt
  rw [if_pos (by decide +kernel)] at hgt
  obtain ⟨hevaluate, hexceeds⟩ := hother half "0.5" .gt _ _ hhalf hgt hrecord
  have htrue := hevaluate.trans (congrArg Except.ok (by decide +kernel : _ = true))
  exact ⟨hname, hquarter, hshort, hitself.mpr (hsame hshort), hhalf, _, _, hgt, hrecord, htrue,
    (hexceeds rfl htrue).1 hhalf'.1⟩

/-- The numeral `0.13999999999999999`. -/
def belowFourteen : Numeral := ⟨false, ['0'], "13999999999999999".toList, 0⟩

/-- The numeral `1.7976931348623158e308`. -/
def aboveLargest : Numeral := ⟨false, ['1'], "7976931348623158".toList, 308⟩

/-- A numeral of seventeen digits that does not equal itself but exceeds itself, and one that is
read in a rule and refused in a record. -/
theorem differs_in_rule_and_record :
    (∃ equal exceeds record, Rule.ofText "x = 0.13999999999999999" = .ok equal ∧
      Rule.ofText "x > 0.13999999999999999" = .ok exceeds ∧
      Record.ofJson "\x7b\"x\": 0.13999999999999999\x7d" = .ok record ∧
      equal.evaluate record = .ok false ∧ exceeds.evaluate record = .ok true) ∧
    (∃ rule, Rule.ofText "x = 1.7976931348623158e308" = .ok rule) ∧
    Record.ofJson "\x7b\"x\": 1.7976931348623158e308\x7d" = .error .unreadableJson := by
  have hname : isName "x" = true := by decide
  have hbelow : belowFourteen.IsJson "0.13999999999999999".toList :=
    isJson_fraction (by decide) (by decide)
  have habove : aboveLargest.IsJson "1.7976931348623158e308".toList := by
    refine ⟨by decide, ?_, List.all_eq_true.mp (by decide), "e308".toList, ?_, by decide⟩
    · rintro rest h
      exact absurd (List.cons.inj h).1 (by decide)
    · exact .unsigned (.inl rfl) (by decide) (List.all_eq_true.mp (by decide))
  constructor
  · have hequal := Rule.ofText_comparisonText hname hbelow .eq
    have hexceeds := Rule.ofText_comparisonText hname hbelow .gt
    have hrecord := Record.ofJson_fieldText "x" hbelow
    rw [if_pos (by decide +kernel)] at hequal hexceeds hrecord
    have hfalse := Rule.evaluate_of_numerals hname hbelow hbelow hequal hrecord
    have htrue := Rule.evaluate_of_numerals hname hbelow hbelow hexceeds hrecord
    refine ⟨_, _, _, hequal, hexceeds, hrecord, hfalse.trans ?_, htrue.trans ?_⟩
    · exact congrArg Except.ok (by decide +kernel)
    · exact congrArg Except.ok (by decide +kernel)
  · have hrule := Rule.ofText_comparisonText hname habove .eq
    have hrecord := Record.ofJson_fieldText "x" habove
    rw [if_pos (by decide +kernel)] at hrule
    rw [if_neg (by decide +kernel)] at hrecord
    exact ⟨⟨_, hrule⟩, hrecord⟩

end Numeral

end Criteria

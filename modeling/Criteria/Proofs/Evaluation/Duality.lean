import Criteria.Proofs.Evaluation.Runs

/-!
# Duality of rules

The dual of a rule has conjunctions and disjunctions exchanged and each comparator replaced by the
one that says the contrary. Without `nan` it has the contrary result, or fails with the same fault
about the contrary comparator, and it looks at the same conditions in the same order.

## Main definitions

* `Criteria.Comparator.contrary`, `Criteria.Connective.dual` — what is replaced by what.
* `Criteria.Rule.dual` — the dual of a rule.
* `Criteria.Fault.contrary` — a fault about the contrary comparator.
* `Criteria.Rule.consult` — evaluation that lists the conditions it looks at.
* `Criteria.Visit.dual` — the visit of the same node of the dual.

## Main results

* `Criteria.Comparator.holdsOfNumbers_contrary` — comparators are contrary on numbers.
* `Criteria.Rule.consult_snd`, `Criteria.Rule.Runs.consult_eq` — the list is that of the
  conditions that evaluation looks at.
* `Criteria.Rule.exists_of_consult_eq_error` — where evaluation fails, it ends with the last of
  them.
* `Criteria.Rule.consult_dual` — what the dual looks at and comes to.
* `Criteria.Rule.Runs.dual` — the visits of the dual.
* `Criteria.Rule.evaluate_dual` — the dual of a rule has the contrary result.
-/

set_option autoImplicit false
set_option relaxedAutoImplicit false

namespace Criteria

/-! ## Contrary comparators -/

namespace Number

/-- Every number but `nan` has a place on the number line. -/
theorem exists_position {n : Number} (hn : n ≠ .nan) : ∃ p, n.position? = some p := by
  cases n with
  | nan => exact absurd rfl hn
  | signed negative m => cases negative <;> exact ⟨_, rfl⟩

/-- Of two numbers, one is below the other or equal to it unless the other is below it. -/
theorem below_or_equals {a b : Number} (ha : a ≠ .nan) (hb : b ≠ .nan) :
    (a.below b || a.equals b) = !b.below a := by
  obtain ⟨p, hp⟩ := exists_position ha
  obtain ⟨q, hq⟩ := exists_position hb
  rw [below, below, equals, hp, hq, Bool.eq_iff_iff]
  simp only [Bool.or_eq_true, decide_eq_true_eq, beq_iff_eq, Bool.not_eq_true',
    decide_eq_false_iff_not]
  omega

end Number

namespace Comparator

/-- The comparator that says the contrary. -/
def contrary : Comparator → Comparator
  | .eq => .ne
  | .ne => .eq
  | .gt => .le
  | .ge => .lt
  | .lt => .ge
  | .le => .gt

/-- Contrary comparators compare the same kinds. -/
theorem supports_contrary (comparator : Comparator) (kind : Kind) :
    comparator.contrary.supports kind = comparator.supports kind := by
  cases comparator <;> rfl

/-- Contrary comparators list the same kinds. -/
theorem supportedKinds_contrary (comparator : Comparator) :
    comparator.contrary.supportedKinds = comparator.supportedKinds := by
  have hsupports : comparator.contrary.supports = comparator.supports :=
    funext comparator.supports_contrary
  rw [supportedKinds, supportedKinds, hsupports]

/-- **Of two numbers, one of two contrary comparators holds.** -/
theorem holdsOfNumbers_contrary (comparator : Comparator) {a b : Number} (ha : a ≠ .nan)
    (hb : b ≠ .nan) :
    comparator.contrary.holdsOfNumbers a b = !comparator.holdsOfNumbers a b := by
  have hle : (a.below b || a.equals b) = !b.below a := Number.below_or_equals ha hb
  have hge : (b.below a || a.equals b) = !a.below b :=
    Number.equals_comm a b ▸ Number.below_or_equals hb ha
  cases comparator with
  | eq => rfl
  | ne => exact (Bool.not_not _).symm
  | gt => exact hle
  | ge => exact ((congrArg not hge).trans (Bool.not_not _)).symm
  | lt => exact hge
  | le => exact ((congrArg not hle).trans (Bool.not_not _)).symm

/-- Of values without an order, one of equality and its contrary holds. -/
theorem holdsOfEquality_contrary {comparator : Comparator} {kind : Kind} (same : Bool)
    (hsupports : comparator.supports kind = true) (hkind : kind ≠ .number) :
    comparator.contrary.holdsOfEquality same = !comparator.holdsOfEquality same := by
  cases comparator with
  | eq => rfl
  | ne => exact (Bool.not_not same).symm
  | gt | ge | lt | le => exact absurd (eq_of_beq hsupports) hkind

/-- The symbol of the contrary comparator; a text that is no symbol stays. -/
def contrarySymbol (symbol : String) : String :=
  match ofSymbol? symbol with
  | some comparator => comparator.contrary.symbol
  | none => symbol

theorem contrarySymbol_symbol (comparator : Comparator) :
    contrarySymbol comparator.symbol = comparator.contrary.symbol := by
  rw [contrarySymbol, ofSymbol?_eq_some_iff.mpr rfl]

end Comparator

/-- A fault about the contrary comparator. -/
def Fault.contrary : Fault → Fault
  | .typeMismatch symbol expected actual =>
    .typeMismatch (Comparator.contrarySymbol symbol) expected actual
  | fault => fault

/-- The contrary of a result: the other truth value, or the fault about the contrary comparator. -/
def contraryResult : Except Fault Bool → Except Fault Bool
  | .ok holds => .ok !holds
  | .error fault => .error fault.contrary

namespace Value

/-- **A comparison with the contrary comparator has the contrary result.** -/
theorem compare_contrary {field literal : Value} (hfield : field ≠ .number .nan)
    (hliteral : literal ≠ .number .nan) (comparator : Comparator) :
    field.compare comparator.contrary literal =
      contraryResult (field.compare comparator literal) := by
  have hmismatch : ∀ expected actual, mismatch comparator.contrary expected actual =
      (mismatch comparator expected actual).contrary := by
    intro expected actual
    rw [mismatch, mismatch, Fault.contrary, Comparator.contrarySymbol_symbol]
  unfold compare
  rw [Comparator.supports_contrary, Comparator.supportedKinds_contrary]
  split
  · next hsupports =>
    split
    · next a b =>
      have ha : a ≠ .nan := fun h => hfield (congrArg Value.number h)
      have hb : b ≠ .nan := fun h => hliteral (congrArg Value.number h)
      exact congrArg Except.ok (comparator.holdsOfNumbers_contrary ha hb)
    · exact congrArg Except.ok
        (Comparator.holdsOfEquality_contrary _ hsupports Kind.noConfusion)
    · exact congrArg Except.ok
        (Comparator.holdsOfEquality_contrary _ hsupports Kind.noConfusion)
    · exact congrArg Except.error (hmismatch _ _)
  · exact congrArg Except.error (hmismatch _ _)

end Value

/-! ## Dual rules -/

/-- The other connective. -/
def Connective.dual : Connective → Connective
  | .conj => .disj
  | .disj => .conj

/-- What settles a connective is the contrary of what settles the other. -/
theorem Connective.settledBy_dual (op : Connective) (holds : Bool) :
    op.dual.settledBy (!holds) = op.settledBy holds := by
  cases op <;> cases holds <;> rfl

/-- The neutral truth value of a connective is the contrary of that of the other. -/
theorem Connective.neutral_dual (op : Connective) : op.dual.neutral = !op.neutral := by
  cases op <;> rfl

namespace Condition

/-- The condition that says the contrary. -/
def contrary (c : Condition) : Condition := { c with comparator := c.comparator.contrary }

/-- A condition without `nan` has the contrary result of its contrary. -/
theorem evaluate_contrary {c : Condition} {field : Option Value}
    (hc : c.value ≠ .number .nan) (hfield : field ≠ some (.number .nan)) :
    c.contrary.evaluate field = contraryResult (c.evaluate field) := by
  cases field with
  | none => rfl
  | some field =>
    have hne : field ≠ .number .nan := fun h => hfield (congrArg some h)
    exact Value.compare_contrary hne hc c.comparator

end Condition

/-- A condition in its place, evaluated by itself. -/
def Hit.evaluate (record : Record) (hit : Hit) : Except Fault Bool :=
  hit.condition.evaluate (record.get? hit.condition.name)

/-- A condition in its place, replaced by the one that says the contrary. -/
def Hit.contrary (hit : Hit) : Hit := { hit with condition := hit.condition.contrary }

namespace Visit

/-- The visit of the same node of the dual. -/
def dual : Visit → Visit
  | .compared path c holds => .compared path c.contrary (!holds)
  | .settled path op left => .settled path op.dual (!left)
  | .decided path op holds => .decided path op.dual (!holds)

/-- The condition that is compared at a visit, in its place. -/
def compared? : Visit → Option Hit
  | .compared path c _ => some ⟨path, c⟩
  | _ => none

end Visit

namespace Rule

variable {record : Record} {rule : Rule} {path : Path} {run : Run}

/-- The dual of a rule: conjunctions and disjunctions are exchanged, and each condition says the
contrary. -/
def dual : Rule → Rule
  | .condition c => .condition c.contrary
  | .join op left right => .join op.dual left.dual right.dual

/-! ## What evaluation looks at -/

/-- Evaluates the subtree at `path` and lists the conditions that are looked at, in order and with
their addresses. -/
def consult (record : Record) : Rule → Path → List Hit × Except Fault Bool
  | .condition c, path => ([⟨path, c⟩], c.evaluate (record.get? c.name))
  | .join op left right, path =>
    match left.consult record (path ++ [.left]) with
    | (seen, .error fault) => (seen, .error fault)
    | (seen, .ok holds) =>
      if op.settledBy holds then (seen, .ok holds)
      else
        let (more, result) := right.consult record (path ++ [.right])
        (seen ++ more, result)

/-- Listing the conditions does not change the result. -/
theorem consult_snd (record : Record) (rule : Rule) (path : Path) :
    (rule.consult record path).2 = rule.evaluate record := by
  induction rule generalizing path with
  | condition c => rfl
  | join op left right ihl ihr =>
    rw [consult, evaluate, ← ihl (path ++ [.left]), ← ihr (path ++ [.right])]
    split
    · next heq => rw [heq]
    · next heq =>
      rw [heq]
      dsimp only
      split <;> rfl

/-- **The conditions that are listed are those that a traced evaluation compares.** -/
theorem Runs.consult_eq (h : Runs record rule path run) :
    rule.consult record path = (run.visits.filterMap Visit.compared?, .ok run.holds) := by
  induction h with
  | compared h => rw [consult, h]; rfl
  | settled hleft h ihl =>
    rw [consult, ihl]
    simp [Connective.settledBy_eq, h, Visit.compared?]
  | decided hleft h hright ihl ihr =>
    rw [consult, ihl]
    simp [Connective.settledBy_eq, h, ihr, Visit.compared?]

/-- Where evaluation does not fail, no condition that is listed does. -/
theorem forall_of_consult_eq_ok {seen : List Hit} {holds : Bool}
    (h : rule.consult record path = (seen, .ok holds)) :
    ∀ hit ∈ seen, ∃ holds, hit.evaluate record = .ok holds := by
  induction rule generalizing path seen holds with
  | condition c =>
    obtain ⟨rfl, heval⟩ := Prod.mk.inj h
    exact List.forall_mem_singleton.mpr ⟨holds, heval⟩
  | join op left right ihl ihr =>
    rw [consult] at h
    split at h
    · cases (Prod.mk.inj h).2
    · next front l hleft =>
      split at h
      · obtain ⟨rfl, -⟩ := Prod.mk.inj h
        exact ihl hleft
      · cases hright : right.consult record (path ++ [.right]) with
        | mk more result =>
          rw [hright] at h
          obtain ⟨rfl, rfl⟩ := Prod.mk.inj h
          exact List.forall_mem_append.mpr ⟨ihl hleft, ihr hright⟩

/-- **Where evaluation fails, the last condition that is listed is the one with the fault,** and
none in front of it fails. -/
theorem exists_of_consult_eq_error {seen : List Hit} {fault : Fault}
    (h : rule.consult record path = (seen, .error fault)) : ∃ front last, seen = front ++ [last] ∧
      (∀ hit ∈ front, ∃ holds, hit.evaluate record = .ok holds) ∧
        last.evaluate record = .error fault := by
  induction rule generalizing path seen fault with
  | condition c =>
    obtain ⟨rfl, heval⟩ := Prod.mk.inj h
    exact ⟨[], ⟨path, c⟩, rfl, List.forall_mem_nil _, heval⟩
  | join op left right ihl ihr =>
    rw [consult] at h
    split at h
    · next front fault' hleft =>
      obtain ⟨rfl, hfault⟩ := Prod.mk.inj h
      obtain rfl := Except.error.inj hfault
      exact ihl hleft
    · next front l hleft =>
      split at h
      · cases (Prod.mk.inj h).2
      · cases hright : right.consult record (path ++ [.right]) with
        | mk rest result =>
          rw [hright] at h
          obtain ⟨rfl, rfl⟩ := Prod.mk.inj h
          obtain ⟨more, last, rfl, hmore, hlast⟩ := ihr hright
          refine ⟨front ++ more, last, (List.append_assoc ..).symm, ?_, hlast⟩
          exact List.forall_mem_append.mpr ⟨forall_of_consult_eq_ok hleft, hmore⟩

/-! ## The dual -/

/-- **The dual looks at the contrary conditions in the same order and has the contrary result.**

**Proof sketch.** Induction on the rule. The left sides have contrary results, or both fail, and
contrary results settle dual connectives alike. -/
theorem consult_dual (hrule : ∀ c ∈ rule.conditions, c.value ≠ .number .nan)
    (hrecord : ∀ name, record.get? name ≠ some (.number .nan)) (path : Path) :
    rule.dual.consult record path = ((rule.consult record path).1.map Hit.contrary,
      contraryResult (rule.consult record path).2) := by
  induction rule generalizing path with
  | condition c =>
    have hc := hrule c (List.mem_singleton_self c)
    exact congrArg (Prod.mk _) (Condition.evaluate_contrary hc (hrecord c.name))
  | join op left right ihl ihr =>
    rw [dual, consult, consult, ihl fun c hc => hrule c (List.mem_append_left _ hc),
      ihr fun c hc => hrule c (List.mem_append_right _ hc)]
    cases hleft : left.consult record (path ++ [.left]) with
    | mk seen result =>
      cases result with
      | error fault => rfl
      | ok holds =>
        dsimp only [contraryResult]
        rw [Connective.settledBy_dual]
        split
        · rfl
        · rw [List.map_append]

/-- **A run of a rule is one of its dual,** in which every visit is that of the dual node. -/
theorem Runs.dual (hrule : ∀ c ∈ rule.conditions, c.value ≠ .number .nan)
    (hrecord : ∀ name, record.get? name ≠ some (.number .nan)) (h : Runs record rule path run) :
    ∃ hits, Runs record rule.dual path ⟨!run.holds, hits, run.visits.map Visit.dual⟩ := by
  induction h with
  | @compared c path holds h =>
    have hc := hrule c (List.mem_singleton_self c)
    have heval := Condition.evaluate_contrary hc (hrecord c.name)
    rw [h] at heval
    exact ⟨_, .compared heval⟩
  | @settled op left right path l hleft h ihl =>
    obtain ⟨hits, hl⟩ := ihl fun c hc => hrule c (List.mem_append_left _ hc)
    have hne : (!l.holds) ≠ op.dual.neutral := by
      rw [Connective.neutral_dual]
      exact fun heq => h (Bool.not_inj heq)
    rw [List.map_append]
    exact ⟨_, .settled hl hne⟩
  | @decided op left right path l r hleft h hright ihl ihr =>
    obtain ⟨hits, hl⟩ := ihl fun c hc => hrule c (List.mem_append_left _ hc)
    obtain ⟨hits', hr⟩ := ihr fun c hc => hrule c (List.mem_append_right _ hc)
    have heq : (!l.holds) = op.dual.neutral := by
      rw [Connective.neutral_dual, h]
    rw [List.map_append, List.map_append]
    exact ⟨_, .decided hl heq hr⟩

/-- **The dual of a rule has the contrary result.** On a record without `nan`, and without `nan`
among its literals,

1. it comes to the other truth value,
2. or fails with the same fault about the contrary comparator;
3. it looks at the same conditions in the same order, each with the contrary comparator.

Here the conditions that are looked at are those that a traced evaluation visits, and each node of
the dual is visited as that of the rule is (4). If evaluation fails, they are the one with the fault
and those compared before it (5). -/
theorem evaluate_dual (hrule : ∀ c ∈ rule.conditions, c.value ≠ .number .nan)
    (hrecord : ∀ name, record.get? name ≠ some (.number .nan)) :
    (∀ holds, rule.evaluate record = .ok holds → rule.dual.evaluate record = .ok !holds) ∧
    (∀ fault, rule.evaluate record = .error fault →
      rule.dual.evaluate record = .error fault.contrary) ∧
    (rule.dual.consult record []).1 = (rule.consult record []).1.map Hit.contrary ∧
    (∀ run, rule.runAt true record [] = .ok run →
      (rule.consult record []).1 = run.visits.filterMap Visit.compared? ∧
      ∃ run', rule.dual.runAt true record [] = .ok run' ∧
        run'.visits = run.visits.map Visit.dual) ∧
    ∀ fault, rule.evaluate record = .error fault → ∃ front last,
      (rule.consult record []).1 = front ++ [last] ∧
      (∀ hit ∈ front, ∃ holds, hit.evaluate record = .ok holds) ∧
        last.evaluate record = .error fault := by
  have hconsult := consult_dual hrule hrecord []
  have hresult : rule.dual.evaluate record = contraryResult (rule.evaluate record) := by
    rw [← consult_snd record rule [], ← consult_snd record rule.dual [], hconsult]
  refine ⟨fun holds h => ?_, fun fault h => ?_, by rw [hconsult], fun run h => ?_,
    fun fault h => ?_⟩
  · rw [hresult, h]
    rfl
  · rw [hresult, h]
    rfl
  · have hruns := runs_of_runAt h
    obtain ⟨hits, hdual⟩ := hruns.dual hrule hrecord
    exact ⟨congrArg Prod.fst hruns.consult_eq, _, runAt_of_runs hdual, rfl⟩
  · rw [← consult_snd record rule []] at h
    exact exists_of_consult_eq_error (Prod.ext rfl h)

/-- A conjunction that its left side settles, and a comparison of a text with a number: the dual of
both fails as well, about the contrary comparator. -/
theorem evaluate_dual_mismatch :
    let record : Record := Table.ofList [("a", .bool true), ("n", .number .zero)]
    let settled : Rule := .join .conj (.condition ⟨"a", .ne, .bool true⟩)
      (.condition ⟨"b", .eq, .bool true⟩)
    let rule : Rule := .join .disj settled (.condition ⟨"n", .gt, .string "x"⟩)
    (∀ c ∈ rule.conditions, c.value ≠ .number .nan) ∧
    (∀ name, record.get? name ≠ some (.number .nan)) ∧
    settled.dual.evaluate record = .ok true ∧
    rule.evaluate record = .error (.typeMismatch ">" "number" "string") ∧
    rule.dual.evaluate record = .error (.typeMismatch "<=" "number" "string") := by
  intro record settled rule
  have hrule : ∀ c ∈ rule.conditions, c.value ≠ .number .nan := by decide
  have hrecord : ∀ name, record.get? name ≠ some (.number .nan) := by
    intro name h
    have hentries : record.entries = [("a", .bool true), ("n", .number .zero)] := rfl
    have hmem := (record.mem_entries_iff name _).mpr h
    rw [hentries] at hmem
    simp [Number.zero] at hmem
  have hsettled : ∀ c ∈ settled.conditions, c.value ≠ .number .nan :=
    fun c hc => hrule c (List.mem_append_left _ hc)
  have hfalse : settled.evaluate record = .ok false := rfl
  have hfails : rule.evaluate record = .error (.typeMismatch ">" "number" "string") := rfl
  exact ⟨hrule, hrecord, (evaluate_dual hsettled hrecord).1 _ hfalse, hfails,
    (evaluate_dual hrule hrecord).2.1 _ hfails⟩

end Rule

end Criteria

import Criteria.Proofs.Evaluation.Runs

/-!
# The trace replays the decision

A report on a rule shows how the decision came about: each visit tells what happens at its node, no
hit is written twice, and replacing every condition by whether it is among the hits decides the rule
as the record did.

## Main definitions

* `Criteria.Visit.Tells` — that a visit tells what happens at its node.
* `Criteria.Run.Replays` — that a run replays the decision on a record.

## Main results

* `Criteria.Hit.nodup_map_text` — hits at different addresses are written differently.
* `Criteria.Visit.tells_of_runs` — the visits of a run tell what happens.
* `Criteria.Visit.filter_isMatched` — the lines marked as matched are those of the hits.
* `Criteria.Rule.Runs.replays`, `Criteria.Rule.replays_of_reportAs` — what every report shows.
-/

set_option autoImplicit false
set_option relaxedAutoImplicit false

namespace Criteria

variable {record : Record} {rule : Rule} {path : Path} {run : Run}

/-! ## Hits as texts -/

namespace Hit

/-- The address stands in the text of a hit, in front of its first colon. -/
theorem takeWhile_text (hit : Hit) :
    hit.text.toList.takeWhile (· ≠ ':') = hit.path.text.toList := by
  have hsplit : hit.text.toList =
      hit.path.text.toList ++ ':' :: ' ' :: hit.condition.text.toList := by
    simp [text]
  rw [hsplit, List.takeWhile_append_of_pos]
  · simp
  · intro c hc
    have hne : c ≠ ':' := fun h => hit.path.colon_notMem_text (h ▸ hc)
    simpa using hne

/-- Hits with the same text have the same address. -/
theorem path_eq_of_text_eq {hit hit' : Hit} (h : hit.text = hit'.text) : hit.path = hit'.path := by
  apply Path.text_injective
  apply String.toList_injective
  rw [← takeWhile_text, h, takeWhile_text]

/-- Hits at different addresses have different texts. -/
theorem nodup_map_text {hits : List Hit} (h : (hits.map Hit.path).Nodup) :
    (hits.map Hit.text).Nodup := by
  have hinjective : Function.Injective fun path : Path => path.text.toList :=
    fun path path' h => Path.text_injective (String.toList_injective h)
  have haddresses := h.map hinjective
  apply List.Nodup.of_map fun line : String => line.toList.takeWhile (· ≠ ':')
  rw [List.map_map] at haddresses ⊢
  have hcut : (fun line : String => line.toList.takeWhile (· ≠ ':')) ∘ text =
      (fun path : Path => path.text.toList) ∘ path := funext takeWhile_text
  rwa [hcut]

end Hit

/-! ## What visits tell -/

namespace Visit

/-- Whether a visit is that of a node that its left side settled. -/
def isSettled : Visit → Bool
  | .settled _ _ _ => true
  | _ => false

/-- The hit that a visit shows, if it shows one. -/
def hit? : Visit → Option Hit
  | .compared path c true => some ⟨path, c⟩
  | _ => none

/-- A visit tells what happens at the node that has the address `path` in a rule: what the condition
there comes to, or that the left side comes to what settles the node, or what the right side comes
to if it does not. -/
def Tells (record : Record) (rule : Rule) (path : Path) : Visit → Prop
  | .compared _ c holds =>
    rule.node? path = some (.condition c) ∧ c.evaluate (record.get? c.name) = .ok holds
  | .settled _ op holds => ∃ left right, rule.node? path = some (.join op left right) ∧
    left.evaluate record = .ok holds ∧ holds ≠ op.neutral
  | .decided _ op holds => ∃ left right, rule.node? path = some (.join op left right) ∧
    left.evaluate record = .ok op.neutral ∧ right.evaluate record = .ok holds

/-- What a visit tells of a node, it tells of every rule that has this node. -/
theorem Tells.of_node?_eq {rule' : Rule} {path' : Path} {visit : Visit}
    (h : visit.Tells record rule path) (hnode : rule'.node? path' = rule.node? path) :
    visit.Tells record rule' path' := by
  cases visit <;> simpa only [Tells, hnode] using h

/-- **Every visit of a run tells what happens at its node.** -/
theorem tells_of_runs (h : Rule.Runs record rule path run) :
    ∀ visit ∈ run.visits, ∃ rest, visit.path = path ++ rest ∧ visit.Tells record rule rest := by
  induction h with
  | compared h =>
    intro visit hmem
    obtain rfl := List.mem_singleton.mp hmem
    exact ⟨[], (List.append_nil _).symm, rfl, h⟩
  | settled hleft h ihl =>
    intro visit hmem
    rcases List.mem_append.mp hmem with hl | hroot
    · obtain ⟨rest, hpath, htells⟩ := ihl visit hl
      exact ⟨.left :: rest, by simpa using hpath, htells.of_node?_eq rfl⟩
    · obtain rfl := List.mem_singleton.mp hroot
      exact ⟨[], (List.append_nil _).symm, _, _, rfl, hleft.evaluate_eq, h⟩
  | decided hleft h hright ihl ihr =>
    intro visit hmem
    rcases List.mem_append.mp hmem with hl | hmem
    · obtain ⟨rest, hpath, htells⟩ := ihl visit hl
      exact ⟨.left :: rest, by simpa using hpath, htells.of_node?_eq rfl⟩
    · rcases List.mem_append.mp hmem with hr | hroot
      · obtain ⟨rest, hpath, htells⟩ := ihr visit hr
        exact ⟨.right :: rest, by simpa using hpath, htells.of_node?_eq rfl⟩
      · obtain rfl := List.mem_singleton.mp hroot
        exact ⟨[], (List.append_nil _).symm, _, _, rfl, hleft.evaluate_of_neutral h,
          hright.evaluate_eq⟩

/-- The hits of a run are those that its visits show. -/
theorem filterMap_hit?_visits (h : Rule.Runs record rule path run) :
    run.visits.filterMap hit? = run.hits := by
  induction h with
  | @compared c path holds h => cases holds <;> rfl
  | settled hleft h ihl => simp [ihl, hit?]
  | decided hleft h hright ihl ihr => simp [ihl, ihr, hit?]

/-- The end of the line of a condition that holds. -/
def matchedMark : String := " => MATCHED"

/-- Whether a line ends like that of a condition that holds. -/
def isMatched (line : String) : Bool := matchedMark.toList.isSuffixOf line.toList

/-- A line that ends in something longer ends like that of a condition that holds only if that
something does. -/
theorem isMatched_append (front : String) {tail : String}
    (hlength : matchedMark.toList.length ≤ tail.toList.length) :
    isMatched (front ++ tail) = isMatched tail := by
  apply Bool.eq_iff_iff.mpr
  rw [isMatched, isMatched, List.isSuffixOf_iff_suffix, List.isSuffixOf_iff_suffix,
    String.toList_append]
  constructor
  · intro h
    exact List.suffix_of_suffix_length_le h (List.suffix_append _ _) hlength
  · intro h
    exact h.trans (List.suffix_append _ _)

/-- The line of a visit that shows a hit. -/
theorem text_of_hit? {visit : Visit} {hit : Hit} (h : visit.hit? = some hit) :
    visit.text = hit.text ++ matchedMark := by
  cases visit with
  | compared path c holds =>
    cases holds with
    | false => simp [hit?] at h
    | true =>
      obtain rfl := Option.some.inj h
      simp [text, Hit.text, matchedMark, String.append_assoc]
  | settled path op left => simp [hit?] at h
  | decided path op holds => simp [hit?] at h

/-- The lines that end in the mark are those of conditions that hold. -/
theorem isMatched_text (visit : Visit) : isMatched visit.text = visit.hit?.isSome := by
  cases visit with
  | compared path c holds =>
    cases holds with
    | false =>
      have htext : text (.compared path c false) =
          path.text ++ ": " ++ c.text ++ " => NOT_MATCHED" := String.append_assoc
      rw [htext, isMatched_append _ (by decide)]
      rfl
    | true =>
      rw [text_of_hit? rfl, isMatched_append _ le_rfl]
      rfl
  | settled path op left =>
    have htext : text (.settled path op left) =
        path.text ++ ": " ++ op.word ++ (" 短路 - 左侧为 " ++ Value.boolWord left) :=
      String.append_assoc
    rw [htext, isMatched_append _ (by cases left <;> decide)]
    cases left <;> rfl
  | decided path op holds =>
    have htext : text (.decided path op holds) =
        path.text ++ (": " ++ op.word ++ " => " ++ Value.boolWord holds) := by
      simp only [text, String.append_assoc]
    rw [htext, isMatched_append _ (by cases op <;> cases holds <;> decide)]
    cases op <;> cases holds <;> rfl

/-- The marked lines are those of the hits, in the same order. -/
theorem filter_isMatched (visits : List Visit) :
    (visits.map text).filter isMatched =
      (visits.filterMap hit?).map fun hit => hit.text ++ matchedMark := by
  induction visits with
  | nil => rfl
  | cons visit visits ih =>
    rw [List.map_cons, List.filter_cons, List.filterMap_cons, isMatched_text, ih]
    cases h : visit.hit? with
    | none => rfl
    | some hit => simp [text_of_hit? h]

end Visit

/-! ## What a report shows -/

/-- A run replays the decision that is made of a rule on a record. -/
structure Run.Replays (record : Record) (rule : Rule) (run : Run) : Prop where
  /-- The hits are the visited conditions that hold, from left to right. -/
  hits_eq : run.hits = rule.placed.filter (rule.isHit record)
  /-- Each hit stands where its address leads. -/
  node?_hit : ∀ hit ∈ run.hits, rule.node? hit.path = some (.condition hit.condition)
  /-- No hit is written twice. -/
  nodup_hits : (run.hits.map Hit.text).Nodup
  /-- With the conditions replaced by whether their text is among the hits, the rule evaluates to
  what the run found. -/
  replay : rule.evaluateBy (fun hit => .ok (decide (hit.text ∈ run.hits.map Hit.text))) [] =
    .ok run.holds
  /-- The visits are those of the visited nodes, each behind those below it. -/
  visits_eq : run.visits.map Visit.path = rule.nodes.filter (rule.isVisited record)
  /-- No node is visited twice. -/
  nodup_visits : (run.visits.map Visit.path).Nodup
  /-- The last visit is that of the root. -/
  last : ∃ front last, run.visits = front ++ [last] ∧ last.path = []
  /-- Each visit tells what happens at its node. -/
  tells : ∀ visit ∈ run.visits, visit.Tells record rule visit.path
  /-- A connective is settled by its left side if and only if nothing on the right is visited. -/
  settled_iff : ∀ visit ∈ run.visits, ∀ op left right,
    rule.node? visit.path = some (.join op left right) →
    (visit.isSettled = true ↔ ∀ rest, visit.path ++ .right :: rest ∉ run.visits.map Visit.path)
  /-- The lines marked as matched are those of the hits, in the same order. -/
  matched_eq : (run.visits.map Visit.text).filter Visit.isMatched =
    run.hits.map fun hit => hit.text ++ Visit.matchedMark

namespace Rule

/-- The address of a visit of a whole rule is that of a visited node. -/
theorem Runs.mem_visits_iff (h : Runs record rule [] run) :
    path ∈ run.visits.map Visit.path ↔ rule.isVisited record path = true := by
  rw [h.map_path_visits]
  simp only [List.nil_append, List.map_id', List.mem_filter, and_iff_right_iff_imp]
  exact mem_nodes_of_isVisited

/-- A connective is settled by its left side if and only if nothing on its right side is visited.

**Proof sketch.** What is visited on the right side is what is visited in it, if the left side
leaves the node undecided: then at least its root. -/
theorem Runs.isSettled_iff {visit : Visit} {op : Connective} {left right : Rule}
    (h : Runs record rule [] run) (hmem : visit ∈ run.visits)
    (htells : visit.Tells record rule visit.path)
    (hnode : rule.node? visit.path = some (.join op left right)) :
    visit.isSettled = true ↔ ∀ rest, visit.path ++ .right :: rest ∉ run.visits.map Visit.path := by
  have hvisited := h.mem_visits_iff.mp (List.mem_map_of_mem hmem)
  have hright : ∀ rest, visit.path ++ .right :: rest ∈ run.visits.map Visit.path ↔
      left.evaluate record = .ok op.neutral ∧ right.isVisited record rest = true := by
    intro rest
    rw [h.mem_visits_iff, isVisited_append hnode hvisited, isVisited, Bool.and_eq_true,
      decide_eq_true_iff]
  simp only [hright]
  cases visit with
  | compared path c holds =>
    obtain ⟨hcondition, -⟩ := htells
    simp [hcondition] at hnode
  | settled path op' holds =>
    obtain ⟨left', right', hjoin, hleft, hne⟩ := htells
    obtain ⟨rfl, rfl, rfl⟩ : op' = op ∧ left' = left ∧ right' = right := by
      simpa [hjoin] using hnode
    simp [Visit.isSettled, hleft, hne]
  | decided path op' holds =>
    obtain ⟨left', right', hjoin, hleft, -⟩ := htells
    obtain ⟨rfl, rfl, rfl⟩ : op' = op ∧ left' = left ∧ right' = right := by
      simpa [hjoin] using hnode
    have hroot : right'.isVisited record [] = true := by
      cases right' <;> rfl
    simp only [Visit.isSettled, hleft, true_and, Bool.false_eq_true, false_iff, not_forall, not_not]
    exact ⟨[], hroot⟩

/-- **A run of a whole rule replays the decision.** -/
theorem Runs.replays (h : Runs record rule [] run) : run.Replays record rule := by
  have hhits : run.hits = rule.placed.filter (rule.isHit record) := by
    simpa [Hit.behind_nil] using h.hits_eq
  have hvisits : run.visits.map Visit.path = rule.nodes.filter (rule.isVisited record) := by
    simpa using h.map_path_visits
  have hplaced : ∀ hit ∈ run.hits, hit ∈ rule.placed := by
    intro hit hmem
    rw [hhits] at hmem
    exact List.mem_of_mem_filter hmem
  have htells : ∀ visit ∈ run.visits, visit.Tells record rule visit.path := by
    intro visit hmem
    obtain ⟨rest, hpath, htells⟩ := Visit.tells_of_runs h visit hmem
    rwa [hpath, List.nil_append]
  have hpaths : (run.hits.map Hit.path).Nodup := by
    have hsublist : (run.hits.map Hit.path).Sublist (rule.placed.map Hit.path) := by
      rw [hhits]
      exact List.filter_sublist.map _
    exact (hsublist.trans rule.sublist_nodes).nodup rule.nodup_nodes
  have hmarked : ∀ hit ∈ rule.placed, decide ((hit.behind []).text ∈ run.hits.map Hit.text) =
      decide (hit.behind [] ∈ run.hits) := by
    intro hit hmem
    rw [Hit.behind_nil, id_eq, decide_eq_decide]
    refine ⟨fun htext => ?_, List.mem_map_of_mem⟩
    obtain ⟨hit', hmem', htext'⟩ := List.mem_map.mp htext
    -- the text tells the address, and the address leads to the condition
    have hpath := Hit.path_eq_of_text_eq htext'
    have hnode := node?_of_mem_placed (hplaced hit' hmem')
    rw [hpath, node?_of_mem_placed hmem] at hnode
    obtain ⟨path, c⟩ := hit
    obtain ⟨path', c'⟩ := hit'
    obtain rfl : path' = path := hpath
    obtain rfl : c = c' := by simpa using hnode
    exact hmem'
  exact {
    hits_eq := hhits
    node?_hit := fun hit hmem => node?_of_mem_placed (hplaced hit hmem)
    nodup_hits := Hit.nodup_map_text hpaths
    replay := h.evaluateBy_eq hmarked
    visits_eq := hvisits
    nodup_visits := hvisits ▸ rule.nodup_nodes.filter _
    last := h.exists_last
    tells := htells
    settled_iff := fun visit hmem op left right => h.isSettled_iff hmem (htells visit hmem)
    matched_eq := by rw [Visit.filter_isMatched, Visit.filterMap_hit?_visits h] }

/-- **Every traced report replays the decision,** and tells the result of the rule. -/
theorem replays_of_reportAs {id name : String} {report : Report}
    (h : rule.reportAs id name true record = .ok report) :
    report.run.Replays record rule ∧ rule.evaluate record = .ok report.run.holds := by
  rw [reportAs] at h
  cases hrun : rule.runAt true record [] with
  | error fault => simp [hrun, Except.map] at h
  | ok run =>
    simp only [hrun, Except.map, Except.ok.injEq] at h
    subst h
    exact ⟨(runs_of_runAt hrun).replays, (runs_of_runAt hrun).evaluate_eq⟩

/-- A disjunction that its left side settles, in a conjunction that its right side decides. -/
theorem replays_of_reportAs_settled :
    let record : Record := Table.ofList [("a", .bool true)]
    let fails : Condition := ⟨"a", .ne, .bool true⟩
    let missing : Condition := ⟨"b", .eq, .bool true⟩
    let rule : Rule :=
      .join .conj (.join .disj (.condition link) (.condition missing)) (.condition fails)
    let run : Run := ⟨false, [⟨[.left, .left], link⟩], [.compared [.left, .left] link true,
      .settled [.left] .disj true, .compared [.right] fails false, .decided [] .conj false]⟩
    rule.reportAs "id" "name" true record = .ok ⟨"id", "name", run⟩ ∧
      run.Replays record rule ∧ rule.evaluate record = .ok false := by
  intro record fails missing rule run
  have hreport : rule.reportAs "id" "name" true record = .ok ⟨"id", "name", run⟩ := rfl
  exact ⟨hreport, replays_of_reportAs hreport⟩

end Rule

end Criteria

import Criteria.Proofs.Store.Turns
import Mathlib.Data.List.Nodup

/-!
# Several saves at once

Of two definitions with one id that are saved at the same time, the one that was compiled first may
be inserted last, and then it stays. So the latest version stays if and only if it was inserted
last, and the version under an id never becomes smaller if and only if the order of compiling is the
order of inserting.

## Main definitions

* `Criteria.SharedStore.Latest` — the latest version is stored under an id.
* `Criteria.SharedStore.NeverDrops` — the version under an id never becomes smaller.

## Main results

* `Criteria.SharedStore.finished_of_two_turns` — every save is over after two turns.
* `Criteria.SharedStore.neverDrops_iff` — the version under an id never becomes smaller if and only
  if what is inserted under it comes in the order of the versions.
* `Criteria.SharedStore.last_inserted_stays` — what is stored when all saves are over.
* `Criteria.SharedStore.first_compiled_stays` — two saves of which the earlier version stays.
-/

set_option autoImplicit false
set_option relaxedAutoImplicit false

namespace Criteria

namespace SharedStore

/-- The version that is stored under an id. -/
def version? (shared : SharedStore) (id : String) : Option Nat :=
  (shared.store.rules.get? id).map Compiled.version

/-- Under an id the latest version is stored of all that were compiled for it. -/
def Latest (shared : SharedStore) (id : String) : Prop :=
  ∀ other ∈ Compiled.under id shared.compiled, ∃ entry,
    shared.store.rules.get? id = some entry ∧ other.version ≤ entry.version

/-- The version that is stored under an id never becomes smaller on the way. -/
def NeverDrops (shared : SharedStore) (turns : List Nat) (id : String) : Prop :=
  ∀ earlier later : List Nat, earlier <+: later → later <+: turns →
    ∀ version, (shared.run earlier).version? id = some version →
      ∃ version', (shared.run later).version? id = some version' ∧ version ≤ version'

variable {shared : SharedStore} {definitions : List Definition} {turns : List Nat} {id : String}

/-! ## How far the saves have got -/

/-- A caller comes closer to the end, if it is not there, and no other caller away from it. -/
def Nears (caller : Nat) (before after : List Saving) : Prop :=
  ∀ other saving, after[other]? = some saving → ∃ earlier, before[other]? = some earlier ∧
    saving.remaining ≤ earlier.remaining - if caller = other then 1 else 0

/-- A save that has fewer steps left takes the place of its caller. -/
theorem nears_set {savings : List Saving} {caller : Nat} {before after : Saving}
    (hbefore : savings[caller]? = some before)
    (hremaining : after.remaining ≤ before.remaining - 1) :
    Nears caller savings (savings.set caller after) := by
  intro other saving hsaving
  by_cases hsame : caller = other
  · subst hsame
    rw [List.getElem?_set_self (List.getElem?_eq_some_iff.1 hbefore).1] at hsaving
    cases hsaving
    exact ⟨before, hbefore, by simpa using hremaining⟩
  · rw [List.getElem?_set_ne hsame] at hsaving
    exact ⟨saving, hsaving, by simp [hsame]⟩

/-- A caller who is at the end need not come closer. -/
theorem nears_self {savings : List Saving} {caller : Nat}
    (hover : ∀ before, savings[caller]? = some before → before.remaining = 0) :
    Nears caller savings savings := by
  intro other saving hsaving
  refine ⟨saving, hsaving, ?_⟩
  by_cases hsame : caller = other
  · simp [hover saving (hsame ▸ hsaving)]
  · simp [hsame]

/-- **A turn brings its caller closer to the end,** and no other caller away from it. -/
theorem nears_turn (shared : SharedStore) (caller : Nat) :
    Nears caller shared.savings (shared.turn caller).savings := by
  unfold turn
  cases hsaving : shared.savings[caller]? with
  | none => exact nears_self (by simp [hsaving])
  | some before =>
    cases before with
    | waiting definition =>
      dsimp only
      cases shared.store.compile definition with
      | error fault => exact nears_set hsaving (by simp [Saving.remaining])
      | ok result => exact nears_set hsaving (by simp [Saving.remaining])
    | held entry => exact nears_set hsaving (by simp [Saving.remaining])
    | refused definition fault => exact nears_self (by simp [hsaving, Saving.remaining])
    | done entry => exact nears_self (by simp [hsaving, Saving.remaining])

/-- A caller who has had some turns has so many fewer steps left. -/
theorem remaining_run (definitions : List Definition) (turns : List Nat) (caller : Nat)
    {saving : Saving}
    (h : ((start definitions).run turns).savings[caller]? = some saving) :
    saving.remaining ≤ 2 - turns.count caller := by
  induction turns using List.reverseRecOn generalizing saving with
  | nil =>
    have hwaiting : (definitions.map Saving.waiting)[caller]? = some saving := h
    rw [List.getElem?_map] at hwaiting
    obtain ⟨definition, -, rfl⟩ := Option.map_eq_some_iff.1 hwaiting
    simp [Saving.remaining]
  | append_singleton turns other ih =>
    rw [run_snoc] at h
    obtain ⟨before, hbefore, hremaining⟩ := nears_turn _ other caller saving h
    have hcount : before.remaining ≤ 2 - turns.count caller := ih hbefore
    rw [List.count_append, List.count_singleton]
    by_cases hsame : other = caller
    · simp only [hsame, if_true, beq_self_eq_true] at hremaining ⊢
      omega
    · simp only [hsame, if_false, beq_iff_eq] at hremaining ⊢
      omega

/-- All saves are over when every caller has had two turns. -/
theorem finished_of_two_turns (definitions : List Definition) {turns : List Nat}
    (h : ∀ caller < definitions.length, 2 ≤ turns.count caller) :
    ((start definitions).run turns).Finished := by
  intro saving hmem
  obtain ⟨caller, hcaller, rfl⟩ := List.mem_iff_getElem.1 hmem
  have hlength : ((start definitions).run turns).savings.length = definitions.length :=
    (List.length_map _).symm.trans
      (congrArg List.length (coherent_run definitions turns).definitions_eq)
  have hcount : 2 ≤ turns.count caller := h caller (hlength ▸ hcaller)
  have hremaining := remaining_run definitions turns caller (List.getElem?_eq_getElem hcaller)
  omega

namespace Coherent

/-- What was compiled comes in the order of the versions. -/
theorem pairwise_compiled (h : Coherent definitions shared) :
    shared.compiled.Pairwise fun first second => first.version < second.version := by
  rw [← List.pairwise_map (f := Compiled.version) (R := (· < ·)), h.counted]
  exact List.pairwise_lt_range'

/-- What was inserted has been compiled. -/
theorem mem_compiled (h : Coherent definitions shared) {entry : Compiled}
    (hmem : entry ∈ shared.inserted) : entry ∈ shared.compiled := by
  rw [← h.compiled_perm.mem_iff, List.mem_filterMap]
  rw [← h.inserted_perm.mem_iff, List.mem_filterMap] at hmem
  obtain ⟨saving, hsaving, hinserted⟩ := hmem
  refine ⟨saving, hsaving, ?_⟩
  cases saving <;> first | exact hinserted | cases hinserted

/-- What was compiled is known by its version. -/
theorem eq_of_version (h : Coherent definitions shared) {first second : Compiled}
    (hfirst : first ∈ shared.compiled) (hsecond : second ∈ shared.compiled)
    (hversion : first.version = second.version) : first = second := by
  have hdistinct : (shared.compiled.map Compiled.version).Nodup := by
    rw [h.counted]
    exact List.nodup_range'
  exact List.inj_on_of_nodup_map hdistinct hfirst hsecond hversion

/-- When all saves are over, everything that was compiled has been inserted. -/
theorem perm_of_finished (h : Coherent definitions shared) (hfinished : shared.Finished) :
    shared.inserted.Perm shared.compiled := by
  have hsame : shared.savings.filterMap Saving.inserted? =
      shared.savings.filterMap Saving.compiled? := by
    refine List.filterMap_congr fun saving hmem => ?_
    have hremaining := hfinished saving hmem
    cases saving <;> first | rfl | cases hremaining
  exact h.inserted_perm.symm.trans (hsame ▸ h.compiled_perm)

/-- When all saves are over, the definitions that can be saved have been compiled. -/
theorem savable_of_finished (h : Coherent definitions shared) (hfinished : shared.Finished) :
    (shared.compiled.map Compiled.definition).Perm
      (definitions.filter fun definition => definition.IsSavable) := by
  have hsavings : ∀ savings : List Saving, (∀ saving ∈ savings, saving.remaining = 0) →
      (∀ saving ∈ savings, saving.Fits) →
      (savings.filterMap Saving.compiled?).map Compiled.definition =
        (savings.map Saving.definition).filter fun definition => definition.IsSavable := by
    intro savings
    induction savings with
    | nil => intro _ _; rfl
    | cons saving savings ih =>
      intro hremaining hfits
      rw [List.forall_mem_cons] at hremaining hfits
      have hrest := ih hremaining.2 hfits.2
      cases saving with
      | waiting definition => cases hremaining.1
      | held entry => cases hremaining.1
      | refused definition fault =>
        have hrefused : ¬definition.IsSavable := hfits.1
        simpa [List.filterMap_cons, Saving.compiled?, Saving.definition, hrefused] using hrest
      | done entry =>
        have hsavable : entry.definition.IsSavable := hfits.1
        simpa [List.filterMap_cons, Saving.compiled?, Saving.definition, hsavable] using hrest
  rw [← h.definitions_eq, ← hsavings shared.savings hfinished h.fits]
  exact (h.compiled_perm.map Compiled.definition).symm

end Coherent

/-! ## The version under an id -/

/-- What was inserted stays so. -/
theorem prefix_inserted (shared : SharedStore) {earlier later : List Nat}
    (h : earlier <+: later) : (shared.run earlier).inserted <+: (shared.run later).inserted := by
  obtain ⟨turns, rfl⟩ := h
  induction turns using List.reverseRecOn with
  | nil => simp
  | append_singleton turns caller ih =>
    rw [← List.append_assoc, run_snoc]
    obtain hsame | ⟨entry, hentry⟩ := (step_turn (shared.run (earlier ++ turns)) caller).inserted_eq
    · rw [hsame]
      exact ih
    · rw [hentry]
      exact ih.trans (List.prefix_append _ _)

/-- Everything that was inserted stood in the store at some time. -/
theorem exists_get?_of_inserted {entry : Compiled}
    (h : entry ∈ Compiled.under id ((start definitions).run turns).inserted) :
    ∃ earlier, earlier <+: turns ∧
      ((start definitions).run earlier).store.rules.get? id = some entry := by
  induction turns using List.reverseRecOn with
  | nil => cases h
  | append_singleton turns caller ih =>
    have hcoherent := coherent_run definitions (turns ++ [caller])
    rw [run_snoc] at h hcoherent
    have hbefore : entry ∈ Compiled.under id ((start definitions).run turns).inserted →
        ∃ earlier, earlier <+: turns ++ [caller] ∧
          ((start definitions).run earlier).store.rules.get? id = some entry := by
      intro hmem
      obtain ⟨earlier, hpart, hget⟩ := ih hmem
      exact ⟨earlier, hpart.trans (List.prefix_append _ _), hget⟩
    obtain hsame | ⟨last, hlast⟩ := (step_turn ((start definitions).run turns) caller).inserted_eq
    · rw [hsame] at h
      exact hbefore h
    · have hplaced := hcoherent.placed id
      rw [hlast, under_concat] at h hplaced
      by_cases hid : last.definition.id = id
      · rw [if_pos hid, List.mem_append, List.mem_singleton] at h
        rcases h with hmem | rfl
        · exact hbefore hmem
        · refine ⟨turns ++ [caller], List.prefix_rfl, ?_⟩
          rw [run_snoc, hplaced, if_pos hid, List.getLast?_concat]
      · rw [if_neg hid] at h
        exact hbefore h

/-- Where versions only grow, the last of all is at least the last of a part at the front. -/
theorem exists_getLast?_of_prefix {front entries : List Compiled} {entry : Compiled}
    (hpart : front <+: entries)
    (hgrow : entries.Pairwise fun first second => first.version ≤ second.version)
    (hentry : front.getLast? = some entry) :
    ∃ last, entries.getLast? = some last ∧ entry.version ≤ last.version := by
  obtain ⟨back, rfl⟩ := hpart
  rw [List.getLast?_append]
  cases hback : back.getLast? with
  | none => exact ⟨entry, hentry, Nat.le_refl _⟩
  | some last =>
    have hle := (List.pairwise_append.1 hgrow).2.2 entry (List.mem_of_getLast? hentry) last
      (List.mem_of_getLast? hback)
    exact ⟨last, rfl, hle⟩

/-- **The version under an id never becomes smaller if and only if what is inserted under it comes
in the order of the versions.** -/
theorem neverDrops_iff (definitions : List Definition) (turns : List Nat) (id : String) :
    (start definitions).NeverDrops turns id ↔
      (Compiled.under id ((start definitions).run turns).inserted).Pairwise
        fun first second => first.version ≤ second.version := by
  constructor
  · intro hnever
    induction turns using List.reverseRecOn with
    | nil => exact .nil
    | append_singleton turns caller ih =>
      have hbefore := ih fun earlier later hearlier hlater =>
        hnever earlier later hearlier (hlater.trans (List.prefix_append _ _))
      have hplaced := (coherent_run definitions (turns ++ [caller])).placed id
      rw [run_snoc] at hplaced ⊢
      obtain hsame | ⟨last, hlast⟩ :=
        (step_turn ((start definitions).run turns) caller).inserted_eq
      · rw [hsame]
        exact hbefore
      · rw [hlast, under_concat] at hplaced ⊢
        by_cases hid : last.definition.id = id
        · rw [if_pos hid, List.getLast?_concat] at hplaced
          rw [if_pos hid, List.pairwise_append]
          refine ⟨hbefore, List.pairwise_singleton _ _, ?_⟩
          -- What was inserted before stood in the store, and its version may not be undercut.
          intro entry hmem other hother
          rw [List.mem_singleton] at hother
          subst hother
          obtain ⟨earlier, hpart, hget⟩ := exists_get?_of_inserted hmem
          obtain ⟨version, hversion, hle⟩ := hnever earlier (turns ++ [caller])
            (hpart.trans (List.prefix_append _ _)) List.prefix_rfl entry.version
            (by rw [version?, hget, Option.map_some])
          rw [version?, run_snoc, hplaced, Option.map_some] at hversion
          exact Option.some.inj hversion ▸ hle
        · rw [if_neg hid]
          exact hbefore
  · intro hgrow earlier later hearlier hlater version hversion
    have hunder : ∀ {front back : List Nat}, front <+: back →
        Compiled.under id ((start definitions).run front).inserted <+:
          Compiled.under id ((start definitions).run back).inserted :=
      fun hpart => (prefix_inserted _ hpart).filter _
    rw [version?, (coherent_run definitions earlier).placed] at hversion
    rw [version?, (coherent_run definitions later).placed]
    obtain ⟨entry, hentry, rfl⟩ := Option.map_eq_some_iff.1 hversion
    obtain ⟨last, hlast, hle⟩ := exists_getLast?_of_prefix (hunder hearlier)
      (hgrow.sublist (hunder hlater).sublist) hentry
    exact ⟨last.version, by rw [hlast, Option.map_some], hle⟩

/-- When all saves are over, the latest version stays under an id if and only if it was inserted
last. -/
theorem Coherent.latest_iff (h : Coherent definitions shared) (hfinished : shared.Finished)
    (id : String) :
    shared.Latest id ↔ (Compiled.under id shared.inserted).getLast? =
      (Compiled.under id shared.compiled).getLast? := by
  have hgrow : (Compiled.under id shared.compiled).Pairwise
      fun first second => first.version < second.version := h.pairwise_compiled.filter _
  have hperm : (Compiled.under id shared.inserted).Perm (Compiled.under id shared.compiled) :=
    (h.perm_of_finished hfinished).filter _
  unfold Latest
  rw [h.placed id]
  obtain hnone | ⟨front, latest, hlatest⟩ :=
    List.eq_nil_or_concat (Compiled.under id shared.compiled)
  · rw [hnone] at hperm ⊢
    rw [hperm.eq_nil]
    simp
  · rw [List.concat_eq_append] at hlatest
    rw [hlatest] at hgrow hperm ⊢
    rw [List.getLast?_concat]
    have hbefore : ∀ other ∈ front, other.version < latest.version := fun other hmem =>
      (List.pairwise_append.1 hgrow).2.2 other hmem latest (List.mem_singleton_self _)
    constructor
    · intro hall
      obtain ⟨entry, hentry, hle⟩ := hall latest (by simp)
      have hmem : entry ∈ front ++ [latest] := hperm.mem_iff.1 (List.mem_of_getLast? hentry)
      rw [List.mem_append, List.mem_singleton] at hmem
      rcases hmem with hfront | rfl
      · have hlt := hbefore entry hfront
        omega
      · exact hentry
    · intro hlast other hmem
      refine ⟨latest, hlast, ?_⟩
      rw [List.mem_append, List.mem_singleton] at hmem
      rcases hmem with hfront | rfl
      · exact (hbefore other hfront).le
      · exact Nat.le_refl _

/-- When all saves are over, the version under an id never became smaller if and only if what was
compiled for it was inserted in the same order. -/
theorem neverDrops_iff_of_finished (definitions : List Definition) (turns : List Nat)
    (hfinished : ((start definitions).run turns).Finished) (id : String) :
    (start definitions).NeverDrops turns id ↔
      Compiled.under id ((start definitions).run turns).inserted =
        Compiled.under id ((start definitions).run turns).compiled := by
  have hcoherent := coherent_run definitions turns
  have hgrow : (Compiled.under id ((start definitions).run turns).compiled).Pairwise
      fun first second => first.version ≤ second.version :=
    (hcoherent.pairwise_compiled.imp Nat.le_of_lt).filter _
  have hperm : (Compiled.under id ((start definitions).run turns).inserted).Perm
      (Compiled.under id ((start definitions).run turns).compiled) :=
    (hcoherent.perm_of_finished hfinished).filter _
  rw [neverDrops_iff]
  refine ⟨fun hinserted => ?_, fun hsame => hsame ▸ hgrow⟩
  refine hperm.eq_of_pairwise ?_ hinserted hgrow
  intro first second hfirst hsecond hle hge
  exact hcoherent.eq_of_version (hcoherent.mem_compiled (List.mem_filter.1 hfirst).1)
    (List.mem_filter.1 hsecond).1 (Nat.le_antisymm hle hge)

/-! ## What is stored when all saves are over -/

/-- **The entry that was inserted last stays.** Callers save definitions, in any number, and take
the two steps of it in any order. Then under each id stands what was inserted last for it. Versions
are one, two, and so on in the order of compiling. The saves are over when every caller has had two
turns, and then exactly the definitions that can be saved have been compiled, and exactly what was
compiled has been inserted. Under an id the latest version is stored if and only if it was inserted
last of those for the id; and its version never became smaller if and only if what was compiled for
the id was inserted in the same order.

**Proof sketch.** Every turn is one of four steps, and each keeps the counts and the lookups in
accord with the lists of what was compiled and inserted. The versions that were compiled grow
strictly, and what was inserted is a rearrangement of them. So the last of both lists is the same
if and only if the largest version is inserted last, and both lists are the same if and only if the
versions that were inserted grow. Every one of them stood in the store at some time. -/
theorem last_inserted_stays (definitions : List Definition) (turns : List Nat) :
    (∀ id, ((start definitions).run turns).store.rules.get? id =
      (Compiled.under id ((start definitions).run turns).inserted).getLast?) ∧
    ((start definitions).run turns).compiled.map Compiled.version =
      List.range' 1 ((start definitions).run turns).compiled.length ∧
    ((∀ caller < definitions.length, 2 ≤ turns.count caller) →
      ((start definitions).run turns).Finished) ∧
    (((start definitions).run turns).Finished →
      (((start definitions).run turns).compiled.map Compiled.definition).Perm
        (definitions.filter fun definition => definition.IsSavable) ∧
      ((start definitions).run turns).inserted.Perm ((start definitions).run turns).compiled ∧
      ∀ id,
        (((start definitions).run turns).Latest id ↔
          (Compiled.under id ((start definitions).run turns).inserted).getLast? =
            (Compiled.under id ((start definitions).run turns).compiled).getLast?) ∧
        ((start definitions).NeverDrops turns id ↔
          Compiled.under id ((start definitions).run turns).inserted =
            Compiled.under id ((start definitions).run turns).compiled)) := by
  have hcoherent := coherent_run definitions turns
  refine ⟨hcoherent.placed, ?_, finished_of_two_turns definitions, ?_⟩
  · have hlength := congrArg List.length hcoherent.counted
    rw [List.length_map, List.length_range'] at hlength
    rw [hlength]
    exact hcoherent.counted
  · intro hfinished
    exact ⟨hcoherent.savable_of_finished hfinished, hcoherent.perm_of_finished hfinished,
      fun id => ⟨hcoherent.latest_iff hfinished id,
        neverDrops_iff_of_finished definitions turns hfinished id⟩⟩

/-- Two definitions that can be saved, with one id. -/
def rivals : List Definition :=
  [⟨"r", "first", .condition ⟨"a", .eq, .bool true⟩, ""⟩,
    ⟨"r", "second", .condition ⟨"b", .eq, .bool true⟩, ""⟩]

/-- Of two saves of one id that do not overlap, the second stays, and it is the latest. -/
theorem last_inserted_stays_resaved :
    ((start rivals).run [0, 0, 1, 1]).Finished ∧ ((start rivals).run [0, 0, 1, 1]).Latest "r" :=
  have hover := (last_inserted_stays rivals [0, 0, 1, 1]).2.2
  have hfinished := hover.1 (by decide)
  ⟨hfinished, ((hover.2 hfinished).2.2 "r").1.2 rfl⟩

/-- Of two saves of one id the first to be compiled is inserted last. Then all is over, with the
first version under the id, where the second stood before. -/
theorem first_compiled_stays :
    (∀ definition ∈ rivals, definition.IsSavable) ∧
    ((start rivals).run [0, 1, 1, 0]).Finished ∧
    ((start rivals).run [0, 1, 1]).version? "r" = some 2 ∧
    ((start rivals).run [0, 1, 1, 0]).version? "r" = some 1 ∧
    ¬((start rivals).run [0, 1, 1, 0]).Latest "r" ∧
    ¬(start rivals).NeverDrops [0, 1, 1, 0] "r" := by
  have hfinished : ((start rivals).run [0, 1, 1, 0]).Finished :=
    finished_of_two_turns _ (by decide)
  refine ⟨by decide, hfinished, rfl, rfl, ?_, ?_⟩
  · rw [(coherent_run _ _).latest_iff hfinished]
    decide
  · rw [neverDrops_iff]
    decide

end SharedStore

end Criteria

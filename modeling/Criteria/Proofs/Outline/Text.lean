import Criteria.Outline.Json
import Criteria.Proofs.Json.Shape
import Criteria.Proofs.Json.Text

/-!
# Outlines are read back from their texts

The JSON text of an outline is read as the outline, as long as it does not nest deeper than
readers go; a deeper one is refused. Members that no outline has may stand in front.

## Main definitions

* `Criteria.Outline.depth` — the number of levels of an outline.

## Main results

* `Criteria.Outline.ofDraft_members` — an outline among other members is read back if and only if
  there are enough levels.
* `Criteria.Outline.decode_text` — so is an outline in a text of its own.
* `Criteria.Outline.ofJson_text` — the compact text of an outline is read back as far as readers
  go, and no other outline has it.
-/

set_option autoImplicit false
set_option relaxedAutoImplicit false

namespace Criteria

namespace Outline

/-- The number of levels of an outline. -/
def depth : Outline → Nat
  | ⟨_, _, left, right⟩ =>
    1 + max (match left with | none => 0 | some child => child.depth)
      (match right with | none => 0 | some child => child.depth)
termination_by structural outline => outline

/-- The number of levels of a child that may be missing. -/
def childDepth (child? : Option Outline) : Nat := (child?.map depth).getD 0

theorem depth_eq (outline : Outline) :
    outline.depth = 1 + max (childDepth outline.left) (childDepth outline.right) := by
  obtain ⟨type, value, left, right⟩ := outline
  cases left <;> cases right <;> rfl

/-- The outline of a rule has as many levels as the rule. -/
theorem depth_ofRule (rule : Rule) : (ofRule rule).depth = rule.depth := by
  induction rule with
  | condition c => rfl
  | join op left right ihl ihr => rw [Rule.depth, ← ihl, ← ihr]; rfl

/-- What the members of an outline are read as. -/
def draftMembers (outline : Outline) : List (Option String × Draft) :=
  outline.members.map fun m => (some m.1, m.2.draft)

theorem draft_json (outline : Outline) :
    outline.json.draft = .object outline.draftMembers true := by
  rw [json, Json.draft, Json.memberDrafts_eq]
  rfl

/-- Reads a child that may be missing. -/
def readChild (levels : Nat) : Option Outline → Except Misread (Option Outline)
  | none => .ok none
  | some child => (ofDraft levels child.json.draft).map some

/-- A child that is there is read as a part that was missing. -/
theorem readOnce_child (levels : Nat) (child : Outline) :
    child.json.draft.readOnce none (Draft.readOptional (ofDraft levels)) =
      (readChild levels (some child)).map some := by
  rw [readChild, draft_json]
  rfl

/-- The type and the value are read in front of any other members. -/
theorem readMembers_front (levels : Nat) (type : String) (value : Option String)
    (rest : List (Option String × Draft)) :
    (shape (ofDraft levels)).readMembers (shape (ofDraft levels)).start
        ((some "type", (Json.string type).draft) :: (some "value", (optionalText value).draft) ::
          rest) =
      (shape (ofDraft levels)).readMembers ⟨some type, some value, none, none⟩ rest := by
  have htype : (shape (ofDraft levels)).part (shape (ofDraft levels)).start "type"
      (Json.string type).draft = .ok ⟨some type, none, none, none⟩ := rfl
  have hvalue : (shape (ofDraft levels)).part ⟨some type, none, none, none⟩ "value"
      (optionalText value).draft = .ok ⟨some type, some value, none, none⟩ := by
    cases value <;> rfl
  rw [Shape.readMembers_cons _ _ (by simp [shape]), htype]
  show Shape.readMembers _ _ _ = _
  rw [Shape.readMembers_cons _ _ (by simp [shape]), hvalue]
  rfl

/-- A child that may be missing is read in front of any other members, into the part that `put`
sets. -/
theorem readMembers_child (levels : Nat) {name : String}
    (hname : name ∈ (shape (ofDraft levels)).names) (put : Option (Option Outline) → Parts)
    (hpart : ∀ draft, (shape (ofDraft levels)).part (put none) name draft =
      (draft.readOnce none (Draft.readOptional (ofDraft levels))).map put)
    (child? : Option Outline) (rest : List (Option String × Draft)) :
    (shape (ofDraft levels)).readMembers (put none)
        ((child?.map fun child => (some name, child.json.draft)).toList ++ rest) =
      (readChild levels child?).bind fun read =>
        (shape (ofDraft levels)).readMembers (put (child?.map fun _ => read)) rest := by
  cases child? with
  | none => rfl
  | some child =>
    show Shape.readMembers _ _ ((some name, child.json.draft) :: rest) = _
    rw [Shape.readMembers_cons _ _ hname, hpart, readOnce_child]
    cases readChild levels (some child) <;> rfl

/-- The members of an outline, its sides in a list each. -/
theorem draftMembers_eq (type : String) (value : Option String) (left right : Option Outline) :
    draftMembers ⟨type, value, left, right⟩ =
      (some "type", (Json.string type).draft) :: (some "value", (optionalText value).draft) ::
        ((left.map fun child => (some "left", child.json.draft)).toList ++
          ((right.map fun child => (some "right", child.json.draft)).toList ++ [])) := by
  cases left <;> cases right <;> rfl

/-- The members of an outline are read as its parts. -/
theorem readMembers_draftMembers (levels : Nat) (outline : Outline) :
    (shape (ofDraft levels)).readMembers (shape (ofDraft levels)).start outline.draftMembers =
      (readChild levels outline.left).bind fun left =>
        (readChild levels outline.right).bind fun right =>
          .ok ⟨some outline.type, some outline.value, outline.left.map fun _ => left,
            outline.right.map fun _ => right⟩ := by
  obtain ⟨type, value, left, right⟩ := outline
  rw [draftMembers_eq, readMembers_front,
    readMembers_child levels (by simp [shape]) (⟨some type, some value, ·, none⟩) fun _ => rfl]
  congr 1
  funext readLeft
  rw [readMembers_child levels (by simp [shape])
    (⟨some type, some value, left.map fun _ => readLeft, ·⟩) fun _ => rfl]
  rfl

/-- Other members that may stand in front of those of an outline. -/
def Ignored (front : List (Option String × Draft)) : Prop :=
  ∀ member ∈ front, ∃ name, member.1 = some name ∧ name ∉ ["type", "value", "left", "right"] ∧
    member.2.skip = .ok ()

theorem ignored_nil : Ignored [] := by
  intro member hmem
  exact nomatch hmem

/-- An outline among other members is read node by node. -/
theorem ofDraft_succ (levels : Nat) (outline : Outline) {front : List (Option String × Draft)}
    (hfront : Ignored front) :
    ofDraft (levels + 1) (.object (front ++ outline.draftMembers) true) =
      (readChild levels outline.left).bind fun left =>
        (readChild levels outline.right).bind fun right =>
          .ok ⟨outline.type, outline.value, left, right⟩ := by
  rw [ofDraft, Draft.readShape_object _ (Nat.succ_ne_zero levels),
    Shape.readMembers_append, (shape (ofDraft levels)).readMembers_ignored _ hfront]
  show Except.bind (Shape.readMembers _ _ outline.draftMembers) _ = _
  rw [readMembers_draftMembers]
  obtain ⟨type, value, left, right⟩ := outline
  have hjoin : ∀ {child? : Option Outline} {read : Option Outline},
      readChild levels child? = .ok read → (child?.map fun _ => read).join = read := by
    intro child? read h
    cases child? with
    | none => cases h; rfl
    | some child => rfl
  cases hleft : readChild levels left with
  | error misread => rfl
  | ok readLeft =>
    cases hright : readChild levels right with
    | error misread => rfl
    | ok readRight =>
      show Except.ok (⟨type, value, _, _⟩ : Outline) = .ok ⟨type, value, readLeft, readRight⟩
      rw [hjoin hleft, hjoin hright]

/-- What a child that may be missing is read as, given what it is read as when it is there. -/
theorem readChild_eq {levels : Nat} (child? : Option Outline)
    (hread : ∀ child, child? = some child → ofDraft levels (.object child.draftMembers true) =
      if child.depth ≤ levels then .ok child else .error .malformed) :
    readChild levels child? =
      if childDepth child? ≤ levels then .ok child? else .error .malformed := by
  cases child? with
  | none => rfl
  | some child =>
    rw [readChild, draft_json, hread child rfl]
    by_cases hdepth : child.depth ≤ levels
    · rw [if_pos hdepth]
      exact (if_pos hdepth).symm
    · rw [if_neg hdepth]
      exact (if_neg hdepth).symm

/-- **An outline is read back** if readers go as deep as it nests, and refused otherwise. Other
members may stand in front of its own. -/
theorem ofDraft_members : ∀ (outline : Outline) (levels : Nat)
    {front : List (Option String × Draft)}, Ignored front →
      ofDraft levels (.object (front ++ outline.draftMembers) true) =
        if outline.depth ≤ levels then .ok outline else .error .malformed
  | outline, 0, front, _ => by
    have hdepth : ¬outline.depth ≤ 0 := by
      rw [depth_eq]
      omega
    rw [if_neg hdepth]
    rfl
  | ⟨type, value, left, right⟩, levels + 1, front, hfront => by
    -- A child is read back by induction, without any members in front of its own.
    have hleft := readChild_eq left fun child h => by
      subst h
      exact ofDraft_members child levels ignored_nil
    have hright := readChild_eq right fun child h => by
      subst h
      exact ofDraft_members child levels ignored_nil
    rw [ofDraft_succ levels _ hfront]
    dsimp only
    rw [hleft, hright, depth_eq]
    dsimp only
    by_cases hl : childDepth left ≤ levels
    · by_cases hr : childDepth right ≤ levels
      · have hfits : 1 + max (childDepth left) (childDepth right) ≤ levels + 1 := by omega
        rw [if_pos hl, if_pos hr, if_pos hfits]
        rfl
      · have hdeep : ¬1 + max (childDepth left) (childDepth right) ≤ levels + 1 := by omega
        rw [if_pos hl, if_neg hr, if_neg hdeep]
        rfl
    · have hdeep : ¬1 + max (childDepth left) (childDepth right) ≤ levels + 1 := by omega
      rw [if_neg hl, if_neg hdeep]
      rfl

/-! ## Whole texts -/

/-- The text of an outline is read by every reader that goes deep enough, and by no other. -/
theorem decode_text (outline : Outline) (levels : Nat) :
    Json.decode (ofDraft levels) outline.text =
      if outline.depth ≤ levels then .ok outline else .error .malformed := by
  have htext : Draft.IsText outline.text.toList outline.json.draft :=
    Json.isText_text outline.json
  have hread := ofDraft_members outline levels ignored_nil
  rw [List.nil_append, ← draft_json] at hread
  rw [Json.decode_of_isText _ htext, hread]

/-- Two outlines with one text are the same, however deep they nest. -/
theorem text_injective : Function.Injective text := by
  intro outline other h
  -- A reader that goes as deep as both reads either of them from the text.
  have hread : ∀ outline' : Outline, outline'.depth ≤ max outline.depth other.depth →
      Json.decode (ofDraft (max outline.depth other.depth)) outline'.text = .ok outline' := by
    intro outline' hdepth
    rw [decode_text, if_pos hdepth]
  have hleft := hread outline (le_max_left _ _)
  have hright := hread other (le_max_right _ _)
  rw [h, hright] at hleft
  exact (Except.ok.inj hleft).symm

/-- **The text of an outline loses nothing.** It is read back as the outline if this has no more
levels than readers go, and is refused otherwise. However many levels there are, no other outline
has the text.

**Proof sketch.** The compact text of a value is a text of its draft, and an outline is read from
the draft of its JSON value if there are enough levels (`ofDraft_members`). A reader that goes as
deep as two outlines tells their texts apart. -/
theorem ofJson_text (outline : Outline) :
    ofJson outline.text =
        (if outline.depth ≤ maxLevels then .ok outline else .error .unreadableJson) ∧
      ∀ other : Outline, other.text = outline.text → other = outline := by
  refine ⟨?_, fun other h => text_injective h⟩
  unfold ofJson
  rw [decode_text]
  by_cases hdepth : outline.depth ≤ maxLevels
  · rw [if_pos hdepth, if_pos hdepth]
    rfl
  · rw [if_neg hdepth, if_neg hdepth]
    rfl

end Outline

end Criteria

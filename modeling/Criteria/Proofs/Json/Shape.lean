import Criteria.Json.Decode

/-!
# Reading values with named parts

Parts are read one by one. Of the state of a reader only some core may matter for a question about
what is read; if each part keeps to this core, then so does the whole reading.

## Main definitions

* `Criteria.Shape.KeepsCore` — the core of a state is all that the core of the next one depends on.

## Main results

* `Criteria.Shape.readMembers_cons`, `Criteria.Shape.readMembers_append`,
  `Criteria.Shape.readMembers_ignored` — members are read one by one, and members that nobody asks
  for are read over.
* `Criteria.Draft.readShape_object` — an object is read as its members are.
* `Criteria.Shape.KeepsCore.readMembers`, `Criteria.Shape.KeepsCore.readMembers_slot` — readings
  from states of the same core, or of members that differ in nothing that the core shows.
-/

set_option autoImplicit false
set_option relaxedAutoImplicit false

namespace Criteria

variable {σ : Type} (shape : Shape σ)

namespace Shape

/-- A member that is asked for is read as a part, and then the rest is read. -/
theorem readMembers_cons (state : σ) {name : String}
    (hname : name ∈ shape.names) (draft : Draft) (rest : List (Option String × Draft)) :
    shape.readMembers state ((some name, draft) :: rest) =
      (shape.part state name draft).bind fun state => shape.readMembers state rest := by
  rw [readMembers, if_pos hname]
  cases shape.part state name draft <;> rfl

/-- Members are read in turn. -/
theorem readMembers_append (state : σ) (front back : List (Option String × Draft)) :
    shape.readMembers state (front ++ back) =
      (shape.readMembers state front).bind fun state => shape.readMembers state back := by
  induction front generalizing state with
  | nil => rfl
  | cons member front ih =>
    obtain ⟨key, draft⟩ := member
    cases key with
    | none => rfl
    | some name =>
      rw [List.cons_append]
      by_cases hname : name ∈ shape.names
      · rw [readMembers_cons shape state hname, readMembers_cons shape state hname]
        cases shape.part state name draft with
        | error misread => rfl
        | ok state => exact ih state
      · rw [readMembers, readMembers, if_neg hname, if_neg hname]
        cases draft.skip with
        | error misread => rfl
        | ok _ => exact ih state

/-- Members that nobody asks for are read over. -/
theorem readMembers_ignored (state : σ) {front : List (Option String × Draft)}
    (hfront : ∀ member ∈ front, ∃ name, member.1 = some name ∧ name ∉ shape.names ∧
      member.2.skip = .ok ()) : shape.readMembers state front = .ok state := by
  induction front with
  | nil => rfl
  | cons member front ih =>
    obtain ⟨key, draft⟩ := member
    obtain ⟨name, rfl, hname, hskip⟩ := hfront _ (List.mem_cons_self ..)
    rw [readMembers, if_neg hname, hskip]
    exact ih fun member hmem => hfront member (List.mem_cons_of_mem _ hmem)

/-- The first items of a list are read before the others. -/
theorem readItems_append (state : σ) {front : List String} {items : List Draft}
    (hlength : front.length = items.length) (names : List String) (back : List Draft) :
    shape.readItems state (front ++ names) (items ++ back) =
      (shape.readItems state front items).bind fun state => shape.readItems state names back := by
  induction front generalizing state items with
  | nil =>
    obtain rfl := List.eq_nil_of_length_eq_zero hlength.symm
    rfl
  | cons name front ih =>
    cases items with
    | nil => exact nomatch hlength
    | cons item items =>
      rw [List.cons_append, List.cons_append, readItems, readItems]
      cases shape.part state name item with
      | error misread => rfl
      | ok state => exact ih state (Nat.succ.inj hlength)

end Shape

/-- An object is read as its members are, as long as any level is left. -/
theorem Draft.readShape_object {levels : Nat} (hlevels : levels ≠ 0)
    (members : List (Option String × Draft)) :
    (Draft.object members true).readShape shape levels =
      shape.readMembers shape.start members := by
  rw [readShape, if_neg hlevels]
  cases shape.readMembers shape.start members <;> rfl

/-! ## What a reading depends on -/

/-- Steps that keep to a core keep to it together. -/
theorem map_bind_congr {ε α β γ δ : Type} {core : α → γ} {core' : β → δ} {first second : Except ε α}
    {next next' : α → Except ε β} (h : first.map core = second.map core)
    (hnext : ∀ a b, core a = core b → (next a).map core' = (next' b).map core') :
    (first.bind next).map core' = (second.bind next').map core' := by
  cases first with
  | error fault =>
    cases second with
    | error fault' => cases h; rfl
    | ok b => exact nomatch h
  | ok a =>
    cases second with
    | error fault => exact nomatch h
    | ok b => exact hnext a b (Except.ok.inj h)

namespace Shape

variable {shape} {τ : Type} {core : σ → τ}

/-- The core of a state is all that the core of the next one depends on. -/
def KeepsCore (shape : Shape σ) (core : σ → τ) : Prop :=
  ∀ (state other : σ) (name : String) (draft : Draft), core state = core other →
    (shape.part state name draft).map core = (shape.part other name draft).map core

/-- What is read keeps to the core. -/
theorem KeepsCore.readMembers (h : shape.KeepsCore core) {state other : σ}
    (hcore : core state = core other) (members : List (Option String × Draft)) :
    (shape.readMembers state members).map core = (shape.readMembers other members).map core := by
  induction members generalizing state other with
  | nil => exact congrArg Except.ok hcore
  | cons member members ih =>
    obtain ⟨key, draft⟩ := member
    cases key with
    | none => rfl
    | some name =>
      by_cases hname : name ∈ shape.names
      · rw [readMembers_cons shape state hname, readMembers_cons shape other hname]
        exact map_bind_congr (h state other name draft hcore) fun _ _ hnext => ih hnext
      · rw [Shape.readMembers, Shape.readMembers, if_neg hname, if_neg hname]
        cases draft.skip with
        | error misread => rfl
        | ok _ => exact ih hcore

/-- Two members of a name that differ in nothing that the core shows are read alike among others. -/
theorem KeepsCore.readMembers_slot (h : shape.KeepsCore core) {name : String}
    (hname : name ∈ shape.names) {draft draft' : Draft}
    (hslot : ∀ state, (shape.part state name draft).map core =
      (shape.part state name draft').map core)
    (state : σ) (front back : List (Option String × Draft)) :
    (shape.readMembers state (front ++ (some name, draft) :: back)).map core =
      (shape.readMembers state (front ++ (some name, draft') :: back)).map core := by
  rw [readMembers_append, readMembers_append]
  cases shape.readMembers state front with
  | error misread => rfl
  | ok state =>
    show (shape.readMembers state ((some name, draft) :: back)).map core =
      (shape.readMembers state ((some name, draft') :: back)).map core
    rw [readMembers_cons shape state hname, readMembers_cons shape state hname]
    exact map_bind_congr (hslot state) fun _ _ hcore => h.readMembers hcore back

end Shape

end Criteria

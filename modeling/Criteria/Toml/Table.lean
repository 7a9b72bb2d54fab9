import Criteria.Settings.Setting

/-!
# Sections under construction

The sections of a TOML text while it is being read. How a section came about decides what may be
added to it.

## Main definitions

* `Criteria.Toml.Origin` — how a section came about.
* `Criteria.Toml.Node` — a value, a section, or a list of sections.
* `Criteria.Toml.Node.assign?`, `Criteria.Toml.Node.openSection?`,
  `Criteria.Toml.Node.openItem?` — the three ways to add to a section.
* `Criteria.Toml.Node.setting` — what a node amounts to in the end.

## Implementation notes

A value is complete once it has been read: nothing can be added to a list or a section that is
written as one value. Of a list of sections only the last one can be added to.
-/

set_option autoImplicit false
set_option relaxedAutoImplicit false

namespace Criteria.Toml

/-- How a section came about. -/
inductive Origin where
  /-- A header or a value has opened it. -/
  | opened
  /-- The header of a section within it has been read, but none of its own. -/
  | implied
  /-- Keys with points between them lead to what has been added to it. -/
  | dotted
  deriving DecidableEq

/-- What stands under a key. -/
inductive Node where
  /-- A complete value. -/
  | value (setting : Setting)
  /-- A section. -/
  | section_ (origin : Origin) (entries : List (String × Node))
  /-- A list of sections. -/
  | sections (items : List Node)

namespace Node

/-- A section that has just been opened. -/
def empty : Node := .section_ .opened []

/-! ## Changes -/

/-- Entries with a changed node under a key. -/
def alter? (key : String) (change : Option Node → Option Node) :
    List (String × Node) → Option (List (String × Node))
  | [] => (change none).map fun node => [(key, node)]
  | entry :: rest =>
    if entry.1 = key then (change (some entry.2)).map fun node => (key, node) :: rest
    else (alter? key change rest).map (entry :: ·)

/-- Nodes of which the last one has been changed. -/
def alterLast? (change : Node → Option Node) : List Node → Option (List Node)
  | [] => none
  | [node] => (change node).map ([·])
  | node :: rest => (alterLast? change rest).map (node :: ·)

/-- A change of a section on the way to a place. A missing section comes about on the way, and keys
with points do not lead through a section that has been opened. -/
def enter? (way : Origin) (change : Node → Option Node) : Option Node → Option Node
  | none => change (.section_ way [])
  | some (.section_ origin entries) =>
    if way = .dotted ∧ origin = .opened then none else change (.section_ origin entries)
  | some (.sections items) => (alterLast? change items).map .sections
  | some (.value _) => none

/-- A change of the section that keys lead to. -/
def descend? (way : Origin) (change : Node → Option Node) : List String → Node → Option Node
  | [], node => change node
  | key :: path, .section_ origin entries =>
    (alter? key (enter? way (descend? way change path)) entries).map (.section_ origin)
  | _ :: _, _ => none

/-! ## Additions -/

/-- A value under keys of a section. There must be nothing yet under the keys, and no header may
have opened the section that they lead to, nor may one open it later. -/
def assign? (path : List String) (key : String) (setting : Setting) : Node → Option Node :=
  descend? .dotted (fun
    | .section_ origin entries =>
      if path ≠ [] ∧ origin = .opened then none
      else
        (alter? key (fun
          | none => some (.value setting)
          | some _ => none) entries).map (.section_ (if path = [] then origin else .dotted))
    | _ => none) path

/-- A section opened by its header, which may only have been implied before. -/
def openSection? (path : List String) (key : String) : Node → Option Node :=
  descend? .implied (fun
    | .section_ origin entries =>
      (alter? key (fun
        | none => some empty
        | some (.section_ .implied entries) => some (.section_ .opened entries)
        | some _ => none) entries).map (.section_ origin)
    | _ => none) path

/-- One more section in a list of sections, opened by its header. -/
def openItem? (path : List String) (key : String) : Node → Option Node :=
  descend? .implied (fun
    | .section_ origin entries =>
      (alter? key (fun
        | none => some (.sections [empty])
        | some (.sections items) => some (.sections (items ++ [empty]))
        | some _ => none) entries).map (.section_ origin)
    | _ => none) path

/-- A value under keys of the section that a header has opened. -/
def assignWithin? (section_ path : List String) (key : String) (setting : Setting) :
    Node → Option Node :=
  descend? .implied (assign? path key setting) section_

/-! ## Results -/

mutual

/-- What a node amounts to. -/
def setting : Node → Setting
  | .value setting => setting
  | .section_ _ entries => .table (entrySettings entries)
  | .sections items => .list (itemSettings items)

/-- What the items of a list amount to. -/
def itemSettings : List Node → List Setting
  | [] => []
  | node :: rest => node.setting :: itemSettings rest

/-- What the entries of a section amount to. -/
def entrySettings : List (String × Node) → List (String × Setting)
  | [] => []
  | (key, node) :: rest => (key, node.setting) :: entrySettings rest

end

end Node

end Criteria.Toml

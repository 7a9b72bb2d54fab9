import Criteria.Json.Basic
import Criteria.Json.Decode
import Criteria.Outline.Basic

/-!
# Outlines as JSON

## Main definitions

* `Criteria.Outline.json` — the JSON value of an outline: a missing value is written, missing
  children are not.
* `Criteria.Outline.ofDraft` — an outline from a draft.
* `Criteria.Outline.text`, `Criteria.Outline.ofJson` — outlines as JSON texts.
-/

set_option autoImplicit false
set_option relaxedAutoImplicit false

namespace Criteria.Outline

/-! ## Writing -/

/-- The value `null` for nothing. -/
def optionalText : Option String → Json
  | none => .null
  | some text => .string text

/-- The members of the JSON object of an outline. -/
def members : Outline → List (String × Json)
  | ⟨type, value, left, right⟩ =>
    [("type", .string type), ("value", optionalText value)]
      ++ (match left with
        | none => []
        | some child => [("left", .object child.members)])
      ++ (match right with
        | none => []
        | some child => [("right", .object child.members)])
termination_by structural outline => outline

/-- The JSON value of an outline. -/
def json (outline : Outline) : Json := .object outline.members

/-- The JSON text of an outline. -/
def text (outline : Outline) : String := outline.json.text

/-! ## Reading -/

/-- The parts of an outline that have been read. -/
structure Parts where
  /-- The type. -/
  type : Option String
  /-- The value, which may be `null`. -/
  value : Option (Option String)
  /-- The left child, which may be `null`. -/
  left : Option (Option Outline)
  /-- The right child, which may be `null`. -/
  right : Option (Option Outline)

/-- How the parts of an outline are read, given how its children are. -/
def shape (child : Draft → Except Misread Outline) : Shape Parts where
  names := ["type", "value", "left", "right"]
  required := 1
  start := ⟨none, none, none, none⟩
  part parts name draft :=
    if name = "type" then
      (draft.readOnce parts.type Draft.readText).map ({ parts with type := · })
    else if name = "value" then
      (draft.readOnce parts.value (Draft.readOptional Draft.readText)).map
        ({ parts with value := · })
    else if name = "left" then
      (draft.readOnce parts.left (Draft.readOptional child)).map ({ parts with left := · })
    else
      (draft.readOnce parts.right (Draft.readOptional child)).map ({ parts with right := · })

/-- The outline with the given parts; only its type cannot be missing. -/
def ofParts (parts : Parts) : Except Misread Outline :=
  match parts.type with
  | none => .error .mismatched
  | some type => .ok ⟨type, parts.value.join, parts.left.join, parts.right.join⟩

/-- Reads an outline that nests at most `levels` deep. -/
def ofDraft : (levels : Nat) → Draft → Except Misread Outline
  | 0, draft => do ofParts (← draft.readShape (shape fun _ => .error .malformed) 0)
  | levels + 1, draft => do ofParts (← draft.readShape (shape (ofDraft levels)) (levels + 1))

/-- The outline that a JSON text is. -/
def ofJson (text : String) : Except Fault Outline :=
  (Json.decode (ofDraft maxLevels) text).mapError fun _ => .unreadableJson

end Criteria.Outline

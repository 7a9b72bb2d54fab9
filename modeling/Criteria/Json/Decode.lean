import Criteria.Json.Draft
import Criteria.Json.Numeral
import Criteria.Fault
import Criteria.Record

/-!
# Reading values of known shape from JSON text

A draft is read as a value of a certain type, from its start and no further than the first
thing that is wrong.

## Main definitions

* `Criteria.Misread` — the two ways in which a text can fail to be what is wanted.
* `Criteria.Shape` — a type of values with named parts, given as an object or as a list.
* `Criteria.Draft.readShape` — such a value from a draft.
* `Criteria.Json.decode` — a value of known shape from a whole text.

## Implementation notes

What is read into a value may nest lists and objects `maxLevels` deep; every reader is given the
number of levels that are left. What nobody asks for is only read over and may nest deeper.
-/

set_option autoImplicit false
set_option relaxedAutoImplicit false

namespace Criteria

/-- Why a text is not what is wanted. -/
inductive Misread where
  /-- It is no JSON, nests too deep, or holds a number or a text that cannot be. -/
  | malformed
  /-- It is JSON of something else. -/
  | mismatched
  deriving DecidableEq

/-- How deep lists and objects may be nested. -/
def maxLevels : Nat := 127

namespace Draft

/-! ## Simple values -/

/-- Why a draft is not of the wanted type: a number or a text is read to its end first, a list
or an object is recognised by its first character. -/
def refuse : Draft → Misread
  | .broken => .malformed
  | .number numeral _ => if numeral.approximate?.isSome then .mismatched else .malformed
  | .string none => .malformed
  | _ => .mismatched

/-- Reads over a draft that nobody asked for. -/
def skip : Draft → Except Misread Unit
  | .broken => .error .malformed
  | .array _ closed => if closed then .ok () else .error .malformed
  | .object _ closed => if closed then .ok () else .error .malformed
  | _ => .ok ()

/-- Reads a text. -/
def readText : Draft → Except Misread String
  | .string (some text) => .ok text
  | draft => .error draft.refuse

/-- Reads a truth value. -/
def readBool : Draft → Except Misread Bool
  | .bool b => .ok b
  | draft => .error draft.refuse

/-- Reads `null` as nothing and everything else by `reader`. -/
def readOptional {α : Type} (reader : Draft → Except Misread α) :
    Draft → Except Misread (Option α)
  | .null => .ok none
  | draft => (reader draft).map some

/-- Reads a list of texts. -/
def readTexts (levels : Nat) : Draft → Except Misread (List String)
  | .array items closed =>
    if levels = 0 then .error .malformed
    else
      match items.mapM readText with
      | .error misread => .error misread
      | .ok texts => if closed then .ok texts else .error .malformed
  | draft => .error draft.refuse

/-! ## Fields of records -/

/-- Whether any value at all can be read from a draft. -/
def isReadable : (levels : Nat) → Draft → Bool
  | _, .null => true
  | _, .bool _ => true
  | _, .number numeral _ => numeral.approximate?.isSome
  | _, .string text => text.isSome
  | levels + 1, .array items closed => closed && items.all (isReadable levels)
  | levels + 1, .object members closed =>
    closed && members.all fun member => member.1.isSome && isReadable levels member.2
  | 0, .array _ _ => false
  | 0, .object _ _ => false
  | _, .broken => false
termination_by structural levels => levels

/-- Reads a field of a record. Its draft is read to its end before its type matters. -/
def readField (levels : Nat) : Draft → Except Misread Value
  | .bool b => .ok (.bool b)
  | .string (some text) => .ok (.string text)
  | .number numeral _ =>
    match numeral.approximate? with
    | some n => .ok (.number n)
    | none => .error .malformed
  | draft => .error (if draft.isReadable levels then .mismatched else .malformed)

/-- Reads members into a record; of two with one name the later one stays. -/
def readFields (levels : Nat) (record : Record) :
    List (Option String × Draft) → Except Misread Record
  | [] => .ok record
  | (none, _) :: _ => .error .malformed
  | (some name, draft) :: rest =>
    match draft.readField levels with
    | .error misread => .error misread
    | .ok value => readFields levels (record.insert name value) rest

/-- Reads a record. -/
def readRecord : (levels : Nat) → Draft → Except Misread Record
  | 0, .object _ _ => .error .malformed
  | levels + 1, .object members closed =>
    match readFields levels .empty members with
    | .error misread => .error misread
    | .ok record => if closed then .ok record else .error .malformed
  | _, draft => .error draft.refuse

end Draft

/-! ## Values with named parts -/

/-- A type of values with named parts that are read one by one. -/
structure Shape (σ : Type) where
  /-- The names of the parts, in the order of a list. -/
  names : List String
  /-- How many of them a list must have. -/
  required : Nat
  /-- Before any part is read. -/
  start : σ
  /-- Reads the part with a name; a part that has been read already is refused. -/
  part : σ → String → Draft → Except Misread σ

namespace Shape

variable {σ : Type} (shape : Shape σ)

/-- Reads the items of a list as the parts, in order. -/
def readItems (state : σ) : List String → List Draft → Except Misread σ
  | name :: names, item :: items =>
    match shape.part state name item with
    | .error misread => .error misread
    | .ok state => readItems state names items
  | _, _ => .ok state

/-- Reads members as the parts, in any order; other members are read over. -/
def readMembers (state : σ) : List (Option String × Draft) → Except Misread σ
  | [] => .ok state
  | (none, _) :: _ => .error .malformed
  | (some name, draft) :: rest =>
    if name ∈ shape.names then
      match shape.part state name draft with
      | .error misread => .error misread
      | .ok state => readMembers state rest
    else
      match draft.skip with
      | .error misread => .error misread
      | .ok () => readMembers state rest

end Shape

namespace Draft

variable {σ : Type}

/-- Reads the parts of a value from the members of an object or from the items of a list. A
list may leave off parts that are not required, and it has no items but the parts. -/
def readShape (shape : Shape σ) (levels : Nat) : Draft → Except Misread σ
  | .array items closed =>
    if levels = 0 then .error .malformed
    else
      match shape.readItems shape.start shape.names items with
      | .error misread => .error misread
      | .ok state =>
        if closed = false ∨ shape.names.length < items.length then .error .malformed
        else if items.length < shape.required then .error .mismatched
        else .ok state
  | .object members closed =>
    if levels = 0 then .error .malformed
    else
      match shape.readMembers shape.start members with
      | .error misread => .error misread
      | .ok state => if closed then .ok state else .error .malformed
  | draft => .error draft.refuse

/-- A part that is read for the first time. -/
def readOnce {α : Type} (old : Option α) (reader : Draft → Except Misread α) (draft : Draft) :
    Except Misread (Option α) :=
  match old with
  | some _ => .error .mismatched
  | none => (reader draft).map some

end Draft

namespace Json

/-- Reads a whole text, behind which nothing but a gap may stand. -/
def decode {α : Type} (reader : Draft → Except Misread α) (text : String) : Except Misread α :=
  let (draft, rest) := Draft.read text.toList
  match reader draft with
  | .error misread => .error misread
  | .ok value =>
    match rest.map Draft.skipGap with
    | some [] => .ok value
    | _ => .error .malformed

end Json

/-- The record that a JSON text is. -/
def Record.ofJson (text : String) : Except Fault Record :=
  (Json.decode (Draft.readRecord maxLevels) text).mapError fun _ => .unreadableJson

end Criteria

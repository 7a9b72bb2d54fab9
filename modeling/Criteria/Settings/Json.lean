import Criteria.Json.Decode
import Criteria.Settings.Layer
import Criteria.Table

/-!
# Settings as JSON

A settings file can be JSON: an object whose members are the settings.

## Main definitions

* `Criteria.Setting.ofDraft?` — the setting that a value of a JSON text is.
* `Criteria.Layer.ofJson?` — the layer that a file is.
-/

set_option autoImplicit false
set_option relaxedAutoImplicit false

namespace Criteria

namespace Setting

/-- The setting that a number of a JSON text is: a whole number if it is written as one, is not a
zero with a sign, and has at most 64 bits. -/
def ofNumeral? (numeral : Numeral) (isWhole : Bool) : Option Setting :=
  let n := Nat.ofDigitChars 10 numeral.whole 0
  let i : Int := if numeral.negative then -n else n
  if isWhole ∧ ¬(numeral.negative ∧ n = 0) ∧ minInt ≤ i ∧ i ≤ maxNat then some (.int i)
  else numeral.approximate?.map .float

/-- The setting that a value of a JSON text is. Of two members with one name the later one stays. -/
def ofDraft? : (levels : Nat) → Draft → Option Setting
  | _, .null => some .nothing
  | _, .bool b => some (.bool b)
  | _, .number numeral isWhole => ofNumeral? numeral isWhole
  | _, .string characters => characters.map .text
  | levels + 1, .array items true => (items.mapM (ofDraft? levels)).map .list
  | levels + 1, .object members true =>
    let read := members.mapM fun (member : Option String × Draft) => do
      let name ← member.1
      let setting ← ofDraft? levels member.2
      some (name, setting)
    read.map fun members => .table (Table.ofList members).entries
  | _, _ => none
termination_by structural levels => levels

end Setting

/-- Reads an object as the settings that its members are. -/
def Draft.readLayer (draft : Draft) : Except Misread Layer :=
  match Setting.ofDraft? maxLevels draft with
  | some (.table entries) => .ok entries
  | _ => .error .mismatched

/-- The layer that a file is. -/
def Layer.ofJson? (text : String) : Option Layer := (Json.decode Draft.readLayer text).toOption

end Criteria

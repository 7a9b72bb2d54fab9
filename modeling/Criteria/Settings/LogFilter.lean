import Criteria.Pattern.Read
import Criteria.Settings.Setting
import Criteria.Settings.Basic
import Criteria.Text.Slice
import Criteria.Text.Split

/-!
# Log filters

Which messages are logged: a list of directives, each a level for all messages or for those of
one target, of one span, or with one field.

## Main definitions

* `Criteria.LogLevel` — the levels.
* `Criteria.FieldFilter`, `Criteria.LogDirective` — what a field must be, and one directive.
* `Criteria.LogFilter` — the filters, kept from the most specific directive to the least.
* `Criteria.LogFilter.read?`, `Criteria.LogFilter.text` — reading and writing filters.
* `Criteria.ObservabilitySettings.logFilter` — the filter that a service uses.

## Implementation notes

The blanks around a directive do not matter to where it is taken apart, but its parts are cut out
of the text with the blanks, at the places that they have in the text without them.
-/

set_option autoImplicit false
set_option relaxedAutoImplicit false

namespace Criteria

/-- How much is logged; each level adds to those before it. -/
inductive LogLevel where
  /-- Nothing. -/
  | off
  /-- Failures. -/
  | error
  /-- Likely mistakes. -/
  | warn
  /-- The course of the work. -/
  | info
  /-- The details of the work. -/
  | debug
  /-- Every step. -/
  | trace
  deriving DecidableEq

namespace LogLevel

/-- All levels, at the place of their numbers. -/
def all : List LogLevel := [.off, .error, .warn, .info, .debug, .trace]

/-- The name of a level. -/
def name : LogLevel → String
  | .off => "off"
  | .error => "error"
  | .warn => "warn"
  | .info => "info"
  | .debug => "debug"
  | .trace => "trace"

/-- The number that a text is: digits, with an optional plus sign. -/
def readIndex? (text : List Char) : Option Nat :=
  let digits := match text with
    | '+' :: rest => rest
    | _ => text
  if digits ≠ [] ∧ digits.all Char.isDigit then some (Nat.ofDigitChars 10 digits 0) else none

/-- The level that a text is: its number, or its name in any case; no text is the level of
failures. -/
def read? (text : List Char) : Option LogLevel :=
  match readIndex? text with
  | some index => all[index]?
  | none =>
    if text = [] then some .error
    else all.find? (·.name.toList == text.map Char.toLower)

end LogLevel

/-! ## Fields -/

/-- What the value of a field must be. -/
inductive FieldValue where
  /-- A truth value. -/
  | bool (b : Bool)
  /-- A number with a fraction. -/
  | float (n : Number)
  /-- A natural number. -/
  | nat (n : Nat)
  /-- A whole number. -/
  | int (i : Int)
  /-- Whatever fits a pattern. -/
  | pattern (text : String)
  deriving DecidableEq

namespace FieldValue

/-- The value that a text is: the first of a truth value, a natural number, a whole number, a number
and a pattern that it can be. -/
def read? (text : List Char) : Option FieldValue :=
  if text = ['t', 'r', 'u', 'e'] then some (.bool true)
  else if text = ['f', 'a', 'l', 's', 'e'] then some (.bool false)
  else
    match Setting.natOfText? text, Setting.intOfText? text, Number.read? text with
    | some n, _, _ => some (.nat n)
    | none, some i, _ => some (.int i)
    | none, none, some n => some (.float n)
    | none, none, none =>
      if isPattern text then some (.pattern (String.ofList text)) else none

/-- A value as it is written. -/
def text : FieldValue → String
  | .bool b => if b then "true" else "false"
  | .float n => n.text
  | .nat n => toString n
  | .int i => toString i
  | .pattern text => text

/-- The place of a kind of values among the others. -/
def rank : FieldValue → Nat
  | .bool _ => 0
  | .float n => if n = .nan then 2 else 1
  | .nat _ => 3
  | .int _ => 4
  | .pattern _ => 5

/-- The order of values, first by kind. -/
def order (a b : FieldValue) : Ordering :=
  match a, b with
  | .bool a, .bool b => compare a.toNat b.toNat
  | .float a, .float b => (compare (rank (.float a)) (rank (.float b))).then
      (compare (a.position?.getD 0) (b.position?.getD 0))
  | .nat a, .nat b => compare a b
  | .int a, .int b => compare a b
  | .pattern a, .pattern b => compare a b
  | a, b => compare a.rank b.rank

end FieldValue

/-- A field that messages must have. -/
structure FieldFilter where
  /-- The name of the field. -/
  name : String
  /-- What its value must be. -/
  value : Option FieldValue
  deriving DecidableEq

namespace FieldFilter

/-- The field that a text is: a name, and what is behind an equals sign up to another one. -/
def read? (text : List Char) : Option FieldFilter :=
  match split '=' text with
  | name :: value :: _ =>
    (FieldValue.read? value).map fun value => ⟨String.ofList name, some value⟩
  | _ => if text = [] then none else some ⟨String.ofList text, none⟩

/-- A field as it is written. -/
def text (field : FieldFilter) : String :=
  match field.value with
  | none => field.name
  | some value => field.name ++ "=" ++ value.text

end FieldFilter

/-! ## Directives -/

/-- A level for some messages. -/
structure LogDirective where
  /-- The target of the messages, any if there is none. -/
  target : Option String
  /-- The span around the messages, any if there is none. -/
  span : Option String
  /-- A field of the spans around the messages, any if there is none. -/
  field : Option FieldFilter
  /-- The level. -/
  level : LogLevel
  deriving DecidableEq

namespace LogDirective

/-- A level for all messages. -/
def ofLevel (level : LogLevel) : LogDirective := ⟨none, none, none, level⟩

/-- Whether a text can start with this character as a directive. -/
def isStart (c : Char) : Bool := isLetterOrDigit c || c == '-' || c == ':' || c == '_'

/-- The level behind an equals sign, from a place on; everything is logged if nothing is there. -/
def readLevel? (text : List Char) (start : Nat) : Option LogLevel :=
  match dropBytes? start text with
  | none => none
  | some [] => some .trace
  | some level => LogLevel.read? level

/-- The level of a directive that has been read up to the characters in front of it. -/
def readEnd? (text : List Char) : List (Nat × Char) → Option LogLevel
  | [] => some .trace
  | (place, c) :: _ => if c = '=' then readLevel? text (place + 1) else none

/-- Reads a field in braces, of which the first has been read, and the end of the directive. -/
def readField? (text : List Char) (start : Nat) (cells : List (Nat × Char)) :
    Option (FieldFilter × LogLevel) :=
  match cells.dropWhile (·.2 != '\x7d') with
  | (stop, _) :: (_, ']') :: behind => do
    let field ← FieldFilter.read? (← slice? start stop text)
    let level ← readEnd? text behind
    some (field, level)
  | _ => none

/-- Reads what stands in brackets, of which the first has been read: a span, and a field in
braces. -/
def readSpan? (target : Option String) (text : List Char) (start : Nat)
    (cells : List (Nat × Char)) : Option LogDirective :=
  match cells.dropWhile fun cell => cell.2 != ']' && cell.2 != '\x7b' with
  | [] => none
  | (stop, c) :: rest => do
    let name ← slice? start stop text
    if c = ']' then
      let level ← readEnd? text rest
      some ⟨target, some (String.ofList name), none, level⟩
    else
      let (field, level) ← readField? text (stop + 1) rest
      some ⟨target, if name = [] then none else some (String.ofList name), some field, level⟩

/-- The directive that a text is: a level, or a target, a span and a field with a level behind an
equals sign. Without a level everything is logged. -/
def read? (text : List Char) : Option LogDirective :=
  let cells := withPlaces 0 (trimBlank text)
  match cells with
  | [] => none
  | (_, '[') :: rest => readSpan? none text 1 rest
  | (_, first) :: _ =>
    if !isStart first then none
    else
      match cells.dropWhile fun cell => cell.2 != '=' && cell.2 != '[' with
      | [] =>
        match LogLevel.read? text with
        | some level => some (ofLevel level)
        | none => some ⟨some (String.ofList text), none, none, .trace⟩
      | (stop, c) :: rest => do
        let target ← slice? 0 stop text
        if c = '[' then readSpan? (some (String.ofList target)) text (stop + 1) rest
        else
          let level ← readLevel? text (stop + 1)
          some ⟨some (String.ofList target), none, none, level⟩

/-- A directive as it is written. -/
def text (directive : LogDirective) : String :=
  let field := directive.field.elim "" fun field => "\x7b" ++ field.text ++ "\x7d"
  let brackets :=
    if directive.span.isSome || directive.field.isSome then
      "[" ++ directive.span.getD "" ++ field ++ "]"
    else ""
  let whole := directive.target.getD "" ++ brackets
  if directive.target.isSome || brackets != "" then whole ++ "=" ++ directive.level.name
  else directive.level.name

/-! ### How specific a directive is -/

/-- An order of values extended to missing ones, which come first. -/
def orderOption {α : Type} (order : α → α → Ordering) : Option α → Option α → Ordering
  | none, none => .eq
  | none, some _ => .lt
  | some _, none => .gt
  | some a, some b => order a b

/-- The order of fields: first those without a value. -/
def orderField (a b : FieldFilter) : Ordering :=
  (compare a.value.isSome.toNat b.value.isSome.toNat).then
    ((compare a.name b.name).then (orderOption FieldValue.order a.value b.value))

/-- The order of directives, from the least specific one: by the length of the target, by whether
there are a span and a field, and then as in a dictionary. -/
def order (a b : LogDirective) : Ordering :=
  let size (directive : LogDirective) := directive.target.elim 0 fun t => t.utf8ByteSize + 1
  (compare (size a) (size b)).then
    ((compare a.span.isSome.toNat b.span.isSome.toNat).then
      ((compare a.field.isSome.toNat b.field.isSome.toNat).then
        ((orderOption compare a.target b.target).then
          ((orderOption compare a.span b.span).then (orderOption orderField a.field b.field)))))

/-- Directives with one more among them, which replaces an equally specific one. -/
def insert (directive : LogDirective) : List LogDirective → List LogDirective
  | [] => [directive]
  | other :: rest =>
    match directive.order other with
    | .eq => directive :: rest
    | .gt => directive :: other :: rest
    | .lt => other :: insert directive rest

/-- Whether a directive depends on the spans around a message. -/
def isDynamic (directive : LogDirective) : Bool :=
  directive.span.isSome || directive.field.isSome

/-- Whether a directive can be decided without the values of a span: it names no span and no value
of a field. -/
def isStatic (directive : LogDirective) : Bool :=
  directive.span.isNone && (directive.field.bind FieldFilter.value).isNone

end LogDirective

/-! ## Filters -/

/-- Directives, each more specific than those behind it. -/
structure LogFilter where
  /-- Those that are decided once for all messages from one place. -/
  statics : List LogDirective
  /-- Those that depend on the spans around a message. -/
  dynamics : List LogDirective
  deriving DecidableEq

namespace LogFilter

/-- The filter of directives, of which a later one replaces an equally specific one. A directive
that names only a field counts twice. -/
def ofDirectives (directives : List LogDirective) : LogFilter :=
  let dynamics := directives.filter LogDirective.isDynamic
  let plain := directives.filter (!·.isDynamic)
  let collect (directives : List LogDirective) :=
    directives.foldl (fun filter directive => directive.insert filter) []
  { statics := collect (plain ++ dynamics.filter LogDirective.isStatic)
    dynamics := collect dynamics }

/-- The filter that a text is: directives with commas between them. -/
def read? (text : String) : Option LogFilter :=
  let parts := (split ',' text.toList).filter (· ≠ [])
  (parts.mapM LogDirective.read?).map ofDirectives

/-- A filter as it is written. -/
def text (filter : LogFilter) : String :=
  ",".intercalate ((filter.statics ++ filter.dynamics).map LogDirective.text)

end LogFilter

/-- The filter that a service uses: the one that overrides its settings if it can be read, else
that of its settings, else that of the course of the work. -/
def ObservabilitySettings.logFilter (settings : ObservabilitySettings) (override : Option String) :
    LogFilter :=
  ((override.bind LogFilter.read?).or (LogFilter.read? settings.logLevel)).getD
    (.ofDirectives [.ofLevel .info])

end Criteria

import Criteria.Text.Split

/-!
# Media types

The header that says what kind of text a body is.

## Main definitions

* `Criteria.MediaType` — a type, a subtype and the suffix of the subtype.
* `Criteria.MediaType.read?` — the media type that a header is.
* `Criteria.MediaType.isJson` — whether it stands for JSON.
-/

set_option autoImplicit false
set_option relaxedAutoImplicit false

namespace Criteria

/-- A media type, in lower case and without its parameters. -/
structure MediaType where
  /-- What comes before the slash. -/
  type : List Char
  /-- What comes behind the slash, up to the last plus sign. -/
  subtype : List Char
  /-- What comes behind the last plus sign. -/
  suffix : Option (List Char)
  deriving DecidableEq

namespace MediaType

/-- Whether a character can stand in a name. -/
def isTokenChar (c : Char) : Bool :=
  c.isAlphanum || "!#$%&'*+-.^_|~".toList.contains c || c.toNat == 0x60

/-- Whether a text is a name. -/
def isToken (text : List Char) : Bool := text != [] && text.all isTokenChar

/-- Whether a character can stand between quotation marks. -/
def isQuotable (c : Char) : Bool := ' ' ≤ c && c ≤ '~'

/-- What follows a value in quotation marks, of which the first has been read. There is at least one
character between the marks, which can itself be a mark. -/
def skipQuoted? : List Char → Option (List Char)
  | [] => none
  | first :: rest =>
    match rest.dropWhile fun c => isQuotable c && c != '"' with
    | '"' :: rest => if isQuotable first then some rest else none
    | _ => none

/-- Whether a text is parameters: names with values behind an equals sign, with semicolons between
them. The value of the last one may be missing. -/
def areParameters : (fuel : Nat) → List Char → Bool
  | 0, text => text == []
  | fuel + 1, text =>
    match text with
    | [] => true
    | ' ' :: rest => areParameters fuel rest
    | _ =>
      text.takeWhile isTokenChar != [] &&
        match text.dropWhile isTokenChar with
        | '=' :: '"' :: rest =>
          match (skipQuoted? rest).map (·.dropWhile (· == ' ')) with
          | some [] => true
          | some (';' :: rest) => areParameters fuel rest
          | _ => false
        | '=' :: rest =>
          match rest.dropWhile isTokenChar with
          | [] => true
          | ';' :: next => rest.takeWhile isTokenChar != [] && areParameters fuel next
          | _ => false
        | _ => false

/-- Splits the part behind the last plus sign off a subtype; the sign cannot come first. -/
def splitSuffix (subtype : List Char) : List Char × Option (List Char) :=
  let suffix := (subtype.reverse.takeWhile (· != '+')).reverse
  let stem := (subtype.reverse.dropWhile (· != '+')).reverse.dropLast
  if stem = [] then (subtype, none) else (stem, some suffix)

/-- The media type that a header is. -/
def read? (header : String) : Option MediaType :=
  let text := header.toList
  let type := text.takeWhile (· != '/')
  match text.dropWhile (· != '/') with
  | '/' :: rest =>
    let whole := rest.takeWhile (· != ';')
    let parameters := (rest.dropWhile (· != ';')).drop 1
    if isToken type && isToken whole && areParameters text.length parameters then
      let (subtype, suffix) := splitSuffix (whole.map Char.toLower)
      some { type := type.map Char.toLower, subtype, suffix }
    else none
  | _ => none

/-- The word for JSON. -/
def jsonWord : List Char := ['j', 's', 'o', 'n']

/-- Whether a media type stands for JSON: an application of which the subtype or its suffix is the
word for it. -/
def isJson (mediaType : MediaType) : Bool :=
  mediaType.type == "application".toList
    && (mediaType.subtype == jsonWord || mediaType.suffix == some jsonWord)

end MediaType

end Criteria

import Criteria.Fault
import Criteria.Text.Blank
import Criteria.Text.Letter
import Criteria.Token.Basic

/-!
# Splitting a text into tokens

A text is read from left to right. Between tokens stand blanks; what starts with any other
character is a bracket, a comparator, a quoted text or a word, as its first character says.

## Main definitions

* `Criteria.Lexeme` — a piece before it is classified, and `Criteria.lexeme?`, the piece that
  starts with a given character.
* `Criteria.Token.ofWord` — a word classified: a connective, a truth value, a number or a name.
* `Criteria.Token.scan` — the tokens of a text.

## Implementation notes

`Token.scanFrom` recurses on the characters alone. The characters of a token behind its first
one are passed over by a count, which `scanFrom_skip` turns into `List.drop`.
-/

set_option autoImplicit false
set_option relaxedAutoImplicit false

namespace Criteria

/-- Whether a character can stand in a word. -/
def isWordChar (c : Char) : Bool :=
  isLetterOrDigit c || c == '_' || c == '.' || c == '-' || c == '+'

/-- A piece of a text before it is classified. -/
inductive Lexeme where
  /-- An opening bracket. -/
  | opening
  /-- A closing bracket. -/
  | closing
  /-- A comparator. -/
  | comparator (symbol : String)
  /-- What a quoted text protects. -/
  | quoted (content : List Char)
  /-- A word. -/
  | word (word : List Char)
  deriving DecidableEq

/-- The comparator that starts with `c`: with an equality sign behind it, or alone. -/
def comparatorLexeme? (c : Char) (rest : List Char) : Option (String × Nat) :=
  match c, rest with
  | '>', '=' :: _ => some (">=", 1)
  | '<', '=' :: _ => some ("<=", 1)
  | '!', '=' :: _ => some ("!=", 1)
  | '>', _ => some (">", 0)
  | '<', _ => some ("<", 0)
  | '=', _ => some ("=", 0)
  | _, _ => none

/-- The piece that starts with `c`, and how many characters of it stand behind `c`. -/
def lexeme? (c : Char) (rest : List Char) : Option (Lexeme × Nat) :=
  if c = '(' then some (.opening, 0)
  else if c = ')' then some (.closing, 0)
  else if c = '"' ∨ c = '\'' then
    (Quoted.readBody? c rest).map fun (content, width) => (.quoted content, width)
  else if isWordChar c then
    let more := rest.takeWhile isWordChar
    some (.word (c :: more), more.length)
  else
    (comparatorLexeme? c rest).map fun (symbol, width) => (.comparator symbol, width)

namespace Token

/-- The numeral that a word is; a word without an ASCII digit is none. -/
def numeral? (word : List Char) : Option Numeral :=
  if word.any Char.isDigit then Numeral.read? word else none

/-- The token that a word is: a connective, a truth value, a finite number or a name. A
numeral beyond the finite numbers is refused. -/
def ofWord (word : List Char) (offset stop : Nat) : Except Fault Token :=
  let text := String.ofList word
  let token (kind : TokenKind) (value : Option Value) : Token := { kind, text, offset, stop, value }
  if text = "AND" then .ok (token .conj none)
  else if text = "OR" then .ok (token .disj none)
  else if text = "true" then .ok (token .literal (some (.bool true)))
  else if text = "false" then .ok (token .literal (some (.bool false)))
  else
    match numeral? word with
    | none => .ok (token .identifier none)
    | some numeral =>
      if numeral.number.isFinite then .ok (token .literal (some (.number numeral.number)))
      else .error (.unexpected s!"'{text}'" "有限范围内的数值" offset)

/-- The token that a piece is. -/
def ofLexeme (lexeme : Lexeme) (offset stop : Nat) : Except Fault Token :=
  match lexeme with
  | .opening => .ok { kind := .opening, text := "(", offset, stop, value := none }
  | .closing => .ok { kind := .closing, text := ")", offset, stop, value := none }
  | .comparator symbol => .ok { kind := .comparator, text := symbol, offset, stop, value := none }
  | .quoted content =>
    let text := String.ofList content
    .ok { kind := .literal, text, offset, stop, value := some (.string text) }
  | .word word => ofWord word offset stop

/-- The tokens of what is left of a text, of which `skip` characters belong to the token before
and `offset` characters have been read. -/
def scanFrom : (skip offset : Nat) → List Char → Except Fault (List Token)
  | _, _, [] => .ok []
  | skip + 1, offset, _ :: rest => scanFrom skip (offset + 1) rest
  | 0, offset, c :: rest =>
    if isBlank c then scanFrom 0 (offset + 1) rest
    else
      match lexeme? c rest with
      | none => .error (.unrecognized c offset)
      | some (lexeme, width) =>
        match ofLexeme lexeme offset (offset + 1 + width) with
        | .error fault => .error fault
        | .ok token => (scanFrom width (offset + 1) rest).map (token :: ·)

/-- The tokens of a text. -/
def scan (text : List Char) : Except Fault (List Token) := scanFrom 0 0 text

/-- Characters that belong to the token before are passed over. -/
theorem scanFrom_skip (skip offset : Nat) (text : List Char) :
    scanFrom skip offset text = scanFrom 0 (offset + skip) (text.drop skip) := by
  induction skip generalizing offset text with
  | zero => simp
  | succ skip ih =>
    cases text with
    | nil => simp [scanFrom]
    | cons c rest =>
      rw [scanFrom, ih, List.drop_succ_cons]
      congr 1
      omega

end Token

end Criteria

/-!
# Quoted text

Text between quotation marks. Written, it stands between double quotation marks, and a
backslash protects every double quotation mark and every backslash inside. Read, the mark is
whichever opened the text, and a backslash protects any one character.

## Main definitions

* `Criteria.Quoted.encode` — a text between double quotation marks.
* `Criteria.Quoted.readBody?` — what follows an opening mark, up to the closing one.

## Main results

* `Criteria.Quoted.readBody?_escape` — reading undoes writing.
-/

set_option autoImplicit false
set_option relaxedAutoImplicit false

namespace Criteria.Quoted

/-- Puts a backslash before every double quotation mark and every backslash. -/
def escape : List Char → List Char
  | [] => []
  | c :: rest => if c = '"' ∨ c = '\\' then '\\' :: c :: escape rest else c :: escape rest

/-- A text between double quotation marks. -/
def encode (text : List Char) : List Char := '"' :: (escape text ++ ['"'])

/-- Reads up to the closing `mark`: the protected text and how many characters it took, the
closing mark included. There is none if the text ends first. -/
def readBody? (mark : Char) : List Char → Option (List Char × Nat)
  | [] => none
  | '\\' :: [] => none
  | '\\' :: c :: rest => (readBody? mark rest).map fun (body, width) => (c :: body, width + 2)
  | c :: rest =>
    if c = mark then some ([], 1)
    else (readBody? mark rest).map fun (body, width) => (c :: body, width + 1)

/-- Reading a written body gives the text back and stops right behind the closing mark. -/
theorem readBody?_escape (text rest : List Char) :
    readBody? '"' (escape text ++ '"' :: rest) = some (text, (escape text).length + 1) := by
  induction text with
  | nil => simp [escape, readBody?]
  | cons c text ih =>
    unfold escape
    by_cases h : c = '"' ∨ c = '\\'
    · simp [h, readBody?, ih]
    · obtain ⟨hmark, hslash⟩ := not_or.1 h
      rw [if_neg h, List.cons_append, readBody?.eq_4 _ _ _ (by simp [hslash]) (by simp [hslash]),
        if_neg hmark, ih]
      simp

end Criteria.Quoted

import CommitGate.Text.LetterCase

/-! # Lower-case text

* `Lowercase.lower` is the lower-case form of one character on its own.
* `Lowercase.lowercase` is that of a text, where a capital sigma at the end of a word becomes `ς`.

Scope limit: the mapping does not depend on a language.
-/

namespace CommitGate.Lowercase

open LetterCase

/-- The lower-case form of a character on its own. -/
def lower (c : Char) : List Char :=
  if c.toNat = 0x130 then ['i', '\u0307']
  else
    match runs.find? fun r => r.contains c.toNat with
    | some r => [Char.ofNat (Int.toNat (c.toNat + r.offset))]
    | none => [c]

/-- Whether a letter comes next, apart from characters that do not separate letters. -/
def meetsLetter (s : List Char) : Bool :=
  match s.dropWhile (CharRange.holds caseIgnorable) with
  | c :: _ => CharRange.holds cased c
  | [] => false

/-- The lower-case form of `Σ` between `before`, read backwards, and `after`. -/
def lowerSigma (before after : List Char) : Char :=
  if meetsLetter before && !meetsLetter after then 'ς' else 'σ'

/-- The lower-case form of a text that follows `before`, which is read backwards. -/
def lowercaseAfter (before : List Char) : List Char → List Char
  | [] => []
  | c :: rest =>
    (if c = 'Σ' then [lowerSigma before rest] else lower c) ++ lowercaseAfter (c :: before) rest

/-- The lower-case form of a text. -/
def lowercase (s : List Char) : List Char := lowercaseAfter [] s

end CommitGate.Lowercase

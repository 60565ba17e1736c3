import CommitGate.Text.Lowercase
import CommitGate.Text.Pattern
import CommitGate.Text.Quoted
import CommitGate.Text.Utf8

/-! # Email addresses

The addresses that an HTML form accepts: a local part, `@`, and a domain of labels joined by dots.

* `Email.isAddress` recognises them, and `Email.validate` gives the reason for a refusal.
* `Email.sameIgnoringCase` compares two texts by their lower-case forms.

Scope limit: the local part has no quotes, and an address is 3 to 254 bytes long.
-/

namespace CommitGate.Email

/-! ## The grammar -/

/-- ASCII letters and digits. -/
def alphanumerics : List CharRange := [.span 'a' 'z', .span 'A' 'Z', .span '0' '9']

/-- What may stand in the local part. -/
def localCharacters : List CharRange :=
  alphanumerics ++ ".!#$%&'*+/=?^_\x60\x7b|\x7d~-".toList.map CharRange.only

/-- What may stand inside a label. -/
def labelCharacters : List CharRange := alphanumerics ++ [.only '-']

/-- A label: at most 63 characters, the first and the last of them a letter or digit. -/
def label : Pattern :=
  .seq (.oneOf alphanumerics) <|
    .optional (.seq (.upTo 61 (.oneOf labelCharacters)) (.oneOf alphanumerics))

/-- An address of any length. -/
def pattern : Pattern :=
  .seq (.oneOrMore (.oneOf localCharacters)) <|
    .seq (.char '@') <| .seq label (.many (.seq (.char '.') label))

/-- The least length of an address, in bytes. -/
def minLength : Nat := 3

/-- The greatest length of an address, in bytes. -/
def maxLength : Nat := 254

/-- Whether `s` is an address. -/
def isAddress (s : List Char) : Bool :=
  let size := (Utf8.encode s).length
  minLength ≤ size && size ≤ maxLength && pattern.accepts s

/-- A text that is not an address. -/
structure Invalid where
  text : String
deriving DecidableEq, Repr

/-- The reason for refusing the text. -/
def Invalid.message (e : Invalid) : String := "invalid email address format: " ++ Quoted.quote e.text

/-- Check that `email` is an address. -/
def validate (email : String) : Except Invalid Unit :=
  if isAddress email.toList then .ok () else .error ⟨email⟩

/-! ## Comparison -/

/-- Whether two texts have the same lower-case form. -/
def sameIgnoringCase (a b : String) : Bool :=
  Lowercase.lowercase a.toList == Lowercase.lowercase b.toList

/-- Whether `email` equals one of the `allowed` addresses, ignoring case. -/
def isAllowed (email : String) (allowed : List String) : Bool :=
  allowed.any fun address => sameIgnoringCase address email

end CommitGate.Email

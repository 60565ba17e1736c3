import CommitGate.Text.Utf8
import CommitGate.Url.Domain.Direction
import CommitGate.Url.Domain.Folding
import CommitGate.Url.Domain.Joining
import CommitGate.Url.Punycode

/-! # Domains

The name of a host is a sequence of labels with dots between them. It may hold any letters; on the wire it
is ASCII.

* `Domain.toAscii?` gives the ASCII form of a name, if it is one.

Scope limit: neither the length of a name nor hyphens in it are checked, and labels may be empty.
-/

namespace CommitGate.Url.Domain

/-- Whether an ASCII character must not stand in a host. -/
def isForbidden (c : Char) : Bool :=
  c.toNat ≤ 0x20 || c.toNat = 0x7F || "%#/:<>?@[\\]^|".toList.contains c

/-- What a label in ASCII form starts with. -/
def asciiMark : List Char := ['x', 'n', '-', '-']

/-- The longest label, in characters, that is given an ASCII form. -/
def maxLabel : Nat := 1000

/-- Whether a label of characters that stand for themselves can be part of a name. -/
def isLabel (label : List Char) : Bool :=
  label.all (fun c => isPermitted c && !isForbidden c)
    && Composition.compose label == label
    && !Joining.startsWithMark label && Joining.holdsFor label

/-- A label and its ASCII form. -/
structure Label where
  text : List Char
  ascii : List Char

/-- A folded label with its ASCII form. One that is marked as an ASCII form must be the form of a label
that is not ASCII. -/
def Label.of? (label : List Char) : Option Label :=
  if asciiMark.isPrefixOf label then do
    let text ← Punycode.decode? (label.drop asciiMark.length)
    if label.all Punycode.isAscii && !text.all Punycode.isAscii && isLabel text then some ⟨text, label⟩
    else none
  else if label.all Punycode.isAscii then
    if label.any isForbidden then none else some ⟨label, label⟩
  else if isLabel label && label.length ≤ maxLabel then
    some ⟨label, asciiMark ++ Punycode.encode label⟩
  else none

/-- Whether the labels of a name may stand together. -/
def directionsHold (labels : List Label) : Bool :=
  let fromRight := labels.any fun l => l.text.any fun c => Direction.isRightToLeft (Direction.ofChar c)
  !fromRight || labels.all fun l => Direction.holdsFor l.text

/-- The ASCII form of a name. -/
def toAscii? (name : Bytes) : Option (List Char) := do
  let text ← (Utf8.decode name).toOption
  let folded ← text.mapM fold
  let labels ← (Split.on '.' (Composition.compose folded.flatten)).mapM Label.of?
  if directionsHold labels then some (List.intercalate ['.'] (labels.map Label.ascii)) else none

end CommitGate.Url.Domain

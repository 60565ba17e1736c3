import CommitGate.Crypto.Sha1
import CommitGate.Text.Decimal
import CommitGate.Text.Hex

/-! # Objects of a repository

A repository keeps objects of four kinds under ids that are made from their content.

* `StoredObject.id` is the id of an object.
* `Pedigree.read` reads the beginning of a commit: the id of its tree and of its parents. It looks at nothing
  else, and of what it looks at it is less strict than the reading of whole commits.
* `tagTarget?` reads what a tag points to.

Scope limit: ids are SHA-1 digests.
-/

namespace CommitGate.Repository

/-- The id of an object: 40 digits in lower case. -/
abbrev ObjectId := String

/-- The kinds of objects. -/
inductive Kind where
  | commit
  | tree
  | blob
  | tag
deriving DecidableEq, Repr

/-- The name of a kind. -/
def Kind.name : Kind → String
  | .commit => "commit"
  | .tree => "tree"
  | .blob => "blob"
  | .tag => "tag"

/-- An object as it is kept. -/
structure StoredObject where
  kind : Kind
  content : Bytes
deriving DecidableEq, Repr

namespace StoredObject

/-- The kind and the length of an object, as they stand before its content. -/
def header (o : StoredObject) : Bytes :=
  Bytes.ofAscii o.kind.name ++ [0x20] ++ Bytes.ofAscii (String.ofList (Decimal.digits o.content.length))
    ++ [0x00]

/-- The id of an object. -/
def id (o : StoredObject) : ObjectId := Hex.lower (Crypto.Sha1.digest (o.header ++ o.content))

/-- The tree without entries. It is there in every repository. -/
def emptyTree : StoredObject := ⟨.tree, []⟩

end StoredObject

/-! ## Ids in text -/

/-- The length of an id. -/
def idLength : Nat := 40

/-- The id that a text of hexadecimal digits in any case denotes. -/
def idOfText? (s : List Char) : Option ObjectId :=
  if s.length = idLength && s.all fun c => (Hex.value? c).isSome then
    some (String.ofList (s.map Char.toLower))
  else none

/-- The id that bytes denote as text. -/
def idOfBytes? (bs : Bytes) : Option ObjectId := idOfText? (bs.map fun b => Char.ofNat b.toNat)

/-! ## Commits -/

/-- Where a commit stands: its tree and its parents. -/
structure Pedigree where
  tree : ObjectId
  parents : List ObjectId
  /-- Whether the list of parents ends where it should. -/
  isComplete : Bool
deriving DecidableEq, Repr

namespace Pedigree

/-- Why nothing can be read from a commit. -/
inductive Fault where
  | noTree
  | badTree
deriving DecidableEq, Repr

/-- The line with the id of the tree, `tree` and an id, is this long. -/
def treeLine : Nat := 5 + idLength + 1

/-- The line with the id of a parent, `parent` and an id, is this long. -/
def parentLine : Nat := 7 + idLength + 1

/-- The id in a parent's line at the beginning. It must not be the last line. -/
def parent? (bs : Bytes) : Option ObjectId :=
  if bs.length = parentLine || (bs.drop (parentLine - 1)).head? ≠ some 0x0A then none
  else idOfBytes? ((bs.drop 7).take idLength)

/-- Read the parents' lines, at most as many as `fuel`. The second part says whether all of them can be
read. -/
def readParents : Nat → Bytes → List ObjectId × Bool
  | 0, _ => ([], true)
  | fuel + 1, bs =>
    if bs.length < parentLine || bs.take 7 ≠ Bytes.ofAscii "parent " then ([], true)
    else
      match parent? bs with
      | none => ([], false)
      | some id =>
        let (ids, isComplete) := readParents fuel (bs.drop parentLine)
        (id :: ids, isComplete)

/-- Read the beginning of a commit. -/
def read (bs : Bytes) : Except Fault Pedigree :=
  if bs.length ≤ treeLine || bs.take 5 ≠ Bytes.ofAscii "tree "
      || (bs.drop (treeLine - 1)).head? ≠ some 0x0A then
    .error .noTree
  else
    match idOfBytes? ((bs.drop 5).take idLength) with
    | none => .error .badTree
    | some tree =>
      let (parents, isComplete) := readParents (bs.length / parentLine) (bs.drop treeLine)
      .ok ⟨tree, parents, isComplete⟩

end Pedigree

/-! ## Tags -/

/-- The id of the object that a tag points to. -/
def tagTarget? (bs : Bytes) : Option ObjectId :=
  if bs.take 7 = Bytes.ofAscii "object " then idOfBytes? ((bs.drop 7).take idLength) else none

end CommitGate.Repository

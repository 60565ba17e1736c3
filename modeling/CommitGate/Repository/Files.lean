import CommitGate.Repository.Clone
import CommitGate.Repository.Deflate
import CommitGate.Text.Split

/-! # Files of a repository

A repository is kept in a directory: each object in a file that is named for its id, each reference in a file
that is named for it or in a line of a common file, and the head in a file.

* `Files.object?`, `Files.head?` and `Files.packed` read such files.
* `Files.names` lists the references that a search may look for.

Scope limit: objects that are packed into common files are not read.
-/

namespace CommitGate.Repository.Files

/-- The file of an object. -/
def objectPath (id : ObjectId) : String :=
  "objects/" ++ String.ofList (id.toList.take 2) ++ "/" ++ String.ofList (id.toList.drop 2)

/-- The kind of a name. -/
def kind? (name : Bytes) : Option Kind :=
  [Kind.commit, .tree, .blob, .tag].find? fun k => Bytes.ofAscii k.name = name

/-- The object in a file: its kind and length before a zero byte, and its content. -/
def object? (data : ByteArray) : Option StoredObject := do
  let bs ← Deflate.inflate? data
  let kind ← kind? (bs.takeWhile (· ≠ 0x20))
  pure ⟨kind, (bs.dropWhile (· ≠ 0x00)).drop 1⟩

/-- What a file of the head or of a reference says: another reference, or an id. -/
def head? (content : Bytes) : Option Head :=
  let s := Blank.trim (Utf8.decodeLossy content)
  if "ref:".toList.isPrefixOf s then
    some (.reference (String.ofList (Blank.trimStart (s.drop 4))))
  else (idOfText? s).map .detached

/-- The reference in a line of the common file. Other lines begin with a sign. -/
def packedLine? (line : List Char) : Option (String × ObjectId) := do
  let id ← idOfText? (line.take idLength)
  match line.drop idLength with
  | ' ' :: name => some (String.ofList (Blank.trimEnd name), id)
  | _ => none

/-- The references in the common file. -/
def packed (content : Bytes) : List (String × ObjectId) :=
  (Split.on '\n' (Utf8.decodeLossy content)).filterMap packedLine?

/-- The name that a revision starts from. -/
def start : Revision → List Char
  | .named name => name
  | .parent of _ | .ancestor of _ | .unwrapped of _ _ => start of

/-- The texts within a text that may be revisions. -/
def parts (s : List Char) : List (List Char) :=
  let ends := match splitDots? s with
    | some (first, last) => [first, last.dropWhile (· = '.')]
    | none => []
  let whole := s :: s.dropWhile (· = '^') :: ends
  whole ++ whole.filterMap (beforeColon? 0)

/-- The full names of all references that a search for a commit may look for. -/
def names (reference : String) : List String :=
  let starts := (parts (asCommit reference)).filterMap fun s => (Revision.read? s).map start
  (starts.flatMap fun s => fullNames (String.ofList s)).eraseDups

end CommitGate.Repository.Files

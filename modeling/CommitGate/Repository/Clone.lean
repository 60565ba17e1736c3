import CommitGate.Commit.Basic
import CommitGate.Log
import CommitGate.Repository.Search
import CommitGate.Text.Blank
import CommitGate.Text.Quoted

/-! # Clones

A clone is a place where a repository is looked for.

* `Repository.resolve` finds the commit that a text stands for.
* `Clone.commit` reads the commit of a reference from a clone; `Clone.read` also tells what is recorded and
  which objects were looked at.

A fault cites all complaints of the search. A search without complaints is reported by its exit status.
-/

namespace CommitGate

namespace Repository

/-! ## Texts -/

/-- What stands before and after the first two dots. -/
def splitDots? : List Char → Option (List Char × List Char)
  | '.' :: '.' :: rest => some ([], rest)
  | c :: rest => (splitDots? rest).map fun (before, after) => (c :: before, after)
  | [] => none

/-- What stands before the first colon that is not within braces. -/
def beforeColon? (depth : Nat) : List Char → Option (List Char)
  | [] => none
  | '\x7b' :: rest => (beforeColon? (depth + 1) rest).map ('\x7b' :: ·)
  | c :: rest =>
    if c = ':' && depth = 0 then some []
    else
      let depth := if c = '\x7d' then depth - 1 else depth
      (beforeColon? depth rest).map (c :: ·)

/-- Find the object of a text. -/
def locateText (r : Repository) (quiet : Bool) (hint : Hint) (s : List Char) : Search ObjectId :=
  match Revision.read? s with
  | some revision => r.locate quiet hint revision
  | none => failure

/-- The same search, which now succeeds in any case. -/
def attempt {α : Type} (search : Search α) : Search (Option α) := OptionT.lift search.run

/-- Find the object of a text that may be the path of a file in a tree. Such a file is no commit. -/
def locateOrPath (r : Repository) (quiet : Bool) (hint : Hint) (s : List Char) : Search ObjectId :=
  r.locateText quiet hint s <|> do
    match beforeColon? 0 s with
    | none | some [] => failure
    | some tree =>
      let _ ← attempt (r.locateText quiet .tree tree)
      failure

/-- Whether a text is a range between two commits. A range is no commit. With three dots both ends must be
commits themselves. -/
def isRange (r : Repository) (s : List Char) : Search Bool :=
  match splitDots? s with
  | none => pure false
  | some (first, last) => do
    let isSymmetric := last.head? = some '.'
    let last := if isSymmetric then last.tail else last
    let first := if first.isEmpty then "HEAD".toList else first
    let some first ← attempt (r.locateOrPath false .commit first) | pure false
    let some last ← attempt (r.locateOrPath false .commit last) | pure false
    if isSymmetric then
      let first ← attempt (r.commitOf first)
      let last ← attempt (r.commitOf last)
      pure (first.isSome && last.isSome)
    else pure true

/-- The text that asks for the commit of a reference. -/
def asCommit (reference : String) : List Char := reference.toList ++ "^\x7bcommit\x7d".toList

/-- Find the commit that a reference stands for. A `^` before the reference, which excludes the commit,
stays before its id. -/
def resolve (r : Repository) (reference : String) : Search String := do
  let s := asCommit reference
  if ← r.isRange s then failure
  match s with
  | '^' :: s => return "^" ++ (← r.locateOrPath true .anything s)
  | s => r.locateOrPath true .anything s

end Repository

/-! ## Clones -/

/-- What is found at the place of a clone. -/
inductive Clone where
  | missing
  /-- There is something else than a directory. -/
  | noDirectory
  /-- There is a directory outside of all repositories. -/
  | noRepository
  | repository (r : Repository)
deriving DecidableEq, Repr

/-- What reading a commit comes to. -/
structure Reading where
  commit : Except Fault Commit
  records : List Log.Record
  /-- The objects that were looked at. -/
  sought : List Repository.ObjectId

namespace Clone

/-- A control character is shown as a question mark. -/
def shown (s : String) : String :=
  s.map fun c =>
    if (c.toNat < 0x20 && c ≠ '\t' && c ≠ '\n') || c.toNat = 0x7F then '?' else c

/-- The fault of a step that fails. -/
def fault (step detail : String) : Fault := .commitAccess ("git " ++ step ++ " failed: " ++ detail)

/-- The step that finds the object of a reference. -/
def finding : String := "rev-parse"

/-- The step that reads an object. -/
def fetching : String := "cat-file"

/-- The fault of a search, by its trail. -/
def searchFault (t : Repository.Trail) : Fault :=
  let text := String.intercalate "\n" (t.complaints.map fun c => shown c.message)
  let trimmed := String.ofList (Blank.trim text.toList)
  fault finding <|
    if !trimmed.isEmpty then trimmed
    else if t.givenUp then "exit status: 128"
    else "exit status: 1"

/-- The record of a commit that has been found. -/
def record (path reference hash : String) : Log.Record :=
  ⟨.debug, "reading commit",
    [("reference", .text reference), ("hash", .text hash), ("path", .text path)]⟩

/-- A reading that fails at once. -/
def failed (f : Fault) : Reading := ⟨.error f, [], []⟩

/-- Read an object that has been found as a commit. -/
def fetch (r : Repository) (hash : String) : Except Fault Commit :=
  match r.object? hash with
  | some o => Commit.ofRaw hash o.content
  | none => .error (fault fetching ("fatal: Not a valid object name " ++ hash))

/-- Read the commit of a reference from a repository. -/
def readFrom (r : Repository) (path reference : String) : Reading :=
  match (r.resolve reference).run .empty with
  | (some hash, t) => ⟨fetch r hash, [record path reference hash], t.sought⟩
  | (none, t) => ⟨.error (searchFault t), [], t.sought⟩

/-- Whether a reference could be taken for something else. -/
def isRefused (reference : String) : Bool :=
  reference.isEmpty || reference.toList.head? = some '-'

/-- Whether a text cannot be handed over. -/
def isUnusable (s : String) : Bool := s.toList.contains '\x00'

/-- Read the commit of a reference from what is found at a path. -/
def read (c : Clone) (path reference : String) : Reading :=
  if isRefused reference then
    failed (.commitAccess ("invalid commit reference: " ++ Quoted.quote reference))
  else if isUnusable path || isUnusable reference then
    failed (.commitAccess "failed to run git: nul byte found in provided data")
  else
    let cannotChange (reason : String) : Reading :=
      failed (fault finding ("fatal: cannot change to '" ++ shown path ++ "': " ++ reason))
    match c with
    | missing => cannotChange "No such file or directory"
    | noDirectory => cannotChange "Not a directory"
    | noRepository =>
      failed (fault finding "fatal: not a git repository (or any of the parent directories): .git")
    | repository r => readFrom r path reference

/-- The commit of a reference. -/
def commit (c : Clone) (path reference : String) : Except Fault Commit := (c.read path reference).commit

end Clone

end CommitGate

import CommitGate.Commit.Identity

/-! # Commit objects

The content of a commit as the repository stores it: headers in a fixed order, an empty line, and
the message.

* `Object.read?` reads the bytes of a commit.
* `Object.write` writes a commit in its canonical spelling.
* `Object.withoutSignatures` is the commit that a signature in it covers.

Scope limit: a header's value that spans several lines is kept as one text with line feeds; of a
carriage return before a line's end nothing is kept there.
-/

namespace CommitGate.Commit

/-- A header that has no fixed place. -/
structure Header where
  name : Bytes
  value : Bytes
deriving DecidableEq, Repr

/-- A commit: hashes as hexadecimal text, two identities, an optional text encoding, further headers
in order, and the message. -/
structure Object where
  tree : Bytes
  parents : List Bytes
  author : Identity
  committer : Identity
  encoding : Option Bytes
  headers : List Header
  message : Bytes
deriving DecidableEq, Repr

namespace Object

/-- The name of the header that carries a signature. -/
def signatureHeader : Bytes := Bytes.ofAscii "gpgsig"

/-! ## Reading -/

/-- A header with a known name, whose value `value` reads up to the end of the line. -/
def readField {α : Type} (name : String) (value : Bytes → Option (α × Bytes)) (bs : Bytes) :
    Option (α × Bytes) := do
  let bs ← literal (Bytes.ofAscii name ++ [0x20]) bs
  let (x, bs) ← value bs
  let bs ← literal [0x0A] bs
  some (x, bs)

/-- Whether `b` is a lower-case hexadecimal digit. -/
def isHexDigit (b : UInt8) : Bool := Bytes.isDigit b || (0x61 ≤ b && b ≤ 0x66)

/-- A hash of 40 digits. -/
def readHash (bs : Bytes) : Option (Bytes × Bytes) :=
  let hash := bs.take 40
  if hash.length = 40 && hash.all isHexDigit then some (hash, bs.drop 40) else none

/-- The bytes of a non-empty line, without the line feed that must follow. -/
def readLine (bs : Bytes) : Option (Bytes × Bytes) :=
  let line := bs.takeWhile (· != 0x0A)
  if line.isEmpty || line.length = bs.length then none else some (line, bs.drop line.length)

/-- The parents that come next, `fuel` of them at most. -/
def readParents : Nat → Bytes → List Bytes × Bytes
  | 0, bs => ([], bs)
  | fuel + 1, bs =>
    match readField "parent" readHash bs with
    | some (hash, rest) =>
      let (hashes, rest) := readParents fuel rest
      (hash :: hashes, rest)
    | none => ([], bs)

/-- The continuation lines that come next, without the space that starts each, `fuel` of them at
most. -/
def readContinuation : Nat → Bytes → List Bytes × Bytes
  | 0, bs => ([], bs)
  | fuel + 1, bs =>
    match bs with
    | 0x20 :: rest =>
      let line := rest.takeWhile (· != 0x0A)
      if line.length = rest.length then ([], bs)
      else
        let (lines, rest) := readContinuation fuel (rest.drop (line.length + 1))
        (line :: lines, rest)
    | _ => ([], bs)

/-- A line without a carriage return at its end. -/
def dropReturn (line : Bytes) : Bytes :=
  if line.getLast? = some 0x0D then line.dropLast else line

/-- A header with any name and a value of one or more lines. -/
def readHeader (bs : Bytes) : Option (Header × Bytes) := do
  let name := bs.takeWhile fun b => b != 0x20 && b != 0x0A
  guard !name.isEmpty
  let bs ← literal [0x20] (bs.drop name.length)
  let (first, bs) ← readLine bs
  let bs ← literal [0x0A] bs
  match readContinuation bs.length bs with
  | ([], _) => some (⟨name, first⟩, bs)
  | (more, rest) => some (⟨name, [0x0A].intercalate ((first :: more).map dropReturn)⟩, rest)

/-- The headers that come next, `fuel` of them at most. -/
def readHeaders : Nat → Bytes → List Header × Bytes
  | 0, bs => ([], bs)
  | fuel + 1, bs =>
    match readHeader bs with
    | some (header, rest) =>
      let (headers, rest) := readHeaders fuel rest
      (header :: headers, rest)
    | none => ([], bs)

/-- The encoding, if the next header is one. -/
def readEncoding (bs : Bytes) : Option Bytes × Bytes :=
  match readField "encoding" readLine bs with
  | some (encoding, rest) => (some encoding, rest)
  | none => (none, bs)

/-- The commit that the bytes hold. -/
def read? (bs : Bytes) : Option Object := do
  let (tree, bs) ← readField "tree" readHash bs
  let (parents, bs) := readParents bs.length bs
  let (author, bs) ← readField "author" Identity.read bs
  let (committer, bs) ← readField "committer" Identity.read bs
  let (encoding, bs) := readEncoding bs
  let (headers, bs) := readHeaders bs.length bs
  let message ← literal [0x0A] bs
  some { tree, parents, author, committer, encoding, headers, message }

/-! ## Writing -/

/-- A header of one line. -/
def writeField (name : Bytes) (value : Bytes) : Bytes := name ++ 0x20 :: value ++ [0x0A]

/-- A header, each further line of its value after a space. -/
def writeHeader (h : Header) : Bytes :=
  writeField h.name ([0x0A, 0x20].intercalate (h.value.splitOn 0x0A))

/-- The canonical spelling of a commit. -/
def write (o : Object) : Except WriteError Bytes := do
  let author ← o.author.write
  let committer ← o.committer.write
  pure <| writeField (Bytes.ofAscii "tree") o.tree
    ++ o.parents.flatMap (writeField (Bytes.ofAscii "parent"))
    ++ writeField (Bytes.ofAscii "author") author
    ++ writeField (Bytes.ofAscii "committer") committer
    ++ (match o.encoding with
      | some encoding => writeField (Bytes.ofAscii "encoding") encoding
      | none => [])
    ++ o.headers.flatMap writeHeader ++ 0x0A :: o.message

/-! ## Signatures -/

/-- Whether the header carries a signature. -/
def isSignature (h : Header) : Bool := h.name == signatureHeader

/-- The text of the first signature. -/
def signature? (o : Object) : Option Bytes := (o.headers.find? isSignature).map Header.value

/-- The commit without its signatures. -/
def withoutSignatures (o : Object) : Object :=
  { o with headers := o.headers.filter fun h => !isSignature h }

end Object

end CommitGate.Commit

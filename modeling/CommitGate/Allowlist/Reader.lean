import CommitGate.Allowlist.Basic
import CommitGate.Yaml.Decode

/-! # Reading allowlists

An allowlist is a YAML document with two lists, `email_addresses` and `third_party_keys`. Their entries
are plain texts or mappings with `repositories`.

* `Allowlist.ofText` reads an allowlist; a blank text is an empty one.
* `Allowlist.ofFile` reads one from what a file holds.

It is all or nothing: one entry that cannot be read spoils the whole list.
-/

namespace CommitGate

/-- Why a file cannot be read. -/
inductive FileFault where
  | notFound
  | isDirectory
  /-- Another reason that the system gives. -/
  | other (reason : String)
deriving DecidableEq, Repr

/-- The text of a file's fault. -/
def FileFault.message : FileFault → String
  | .notFound => "No such file or directory (os error 2)"
  | .isDirectory => "Is a directory (os error 21)"
  | .other reason => reason

namespace Allowlist

open Yaml

/-! ## Entries -/

/-- The members of an entry: the text under its main name and its repositories. -/
structure Members where
  main : Option String
  repositories : Option (List String)
deriving DecidableEq, Repr

/-- A text. -/
def text? : Value → Option String
  | .scalar (.text s) => some (String.ofList s)
  | _ => none

/-- A list of texts. -/
def texts? : Value → Option (List String)
  | .sequence items => items.mapM text?
  | _ => none

/-- Which member a key names: the main one, the repositories, or none. A number counts members. -/
inductive MemberName where
  | main
  | repositories
  | other
deriving DecidableEq, Repr

/-- The member that a key names, if it can be a name at all. -/
def memberName? (main : String) : Value → Option MemberName
  | .scalar (.text s) =>
    some (if s = main.toList then .main
      else if s = "repositories".toList then .repositories else .other)
  | .scalar (.whole n) =>
    if n < 0 then none else some (if n = 0 then .main else if n = 1 then .repositories else .other)
  | _ => none

/-- Store a member that is not yet there. -/
def addMember (main : String) (ms : Members) (m : Value × Value) : Option Members := do
  match ← memberName? main m.1 with
  | .other => pure ms
  | .main => if ms.main.isSome then none else return { ms with main := some (← text? m.2) }
  | .repositories =>
    if ms.repositories.isSome then none
    else return { ms with repositories := some (← texts? m.2) }

/-- An entry whose main member has the name `main`: a text alone, or a mapping. -/
def entry? (main : String) : Value → Option (String × Scope)
  | .scalar (.text s) => some (String.ofList s, .all)
  | .mapping ms => do
    let found ← ms.foldlM (addMember main) ⟨none, none⟩
    pure (← found.main, Scope.ofList (found.repositories.getD []))
  | _ => none

/-! ## The document -/

/-- Read an entry, with `depth` levels left within it. `kind` names entries in a message. -/
def entry {α : Type} (main kind : String) (make : String → Scope → α) (depth : Nat) (path : String)
    (n : Node) : Decode α := do
  match entry? main (← Decode.value depth path n) with
  | some (text, scope) => pure (make text scope)
  | none => Decode.misfit ("data did not match any variant of untagged enum " ++ kind)

/-- Read a list of entries. -/
def entries {α : Type} (read : String → Node → Decode α) (path : String) (n : Node) :
    Decode (List α) := do
  let n ← Decode.follow n
  match n with
  | .sequence mark _ ns => Decode.placed mark path (Decode.items path read 0 ns)
  | .scalar mark _ _ | .mapping mark _ _ =>
    if Decode.isBlankScalar n then pure []
    else Decode.placed mark path (Decode.unexpected n "a sequence")
  | .alias _ _ | .cut => Decode.cutOff

/-- The name that a key of the document stands for. -/
def fieldName (key : Node) : Decode String := do
  let key ← Decode.follow key
  match key with
  | .scalar _ _ s => pure (String.ofList s.text)
  | .sequence mark _ _ | .mapping mark _ _ =>
    Decode.placed mark "." (Decode.unexpected key "field identifier")
  | .alias _ _ | .cut => Decode.cutOff

/-- The lists that were read so far. -/
structure Lists where
  emails : Option (List EmailEntry)
  keys : Option (List KeyEntry)
deriving DecidableEq, Repr

/-- Read a member of the document. -/
def member (lists : Lists) (key value : Node) : Decode Lists := do
  let name ← fieldName key
  let depth := Decode.maxDepth - 2
  let path := Decode.memberPath "." key
  if name = "email_addresses" then
    if lists.emails.isSome then Decode.misfit ("duplicate field \x60" ++ name ++ "\x60")
    let es ← entries (entry "email_address" "EmailEntryRepr" EmailEntry.mk depth) path value
    pure { lists with emails := some es }
  else if name = "third_party_keys" then
    if lists.keys.isSome then Decode.misfit ("duplicate field \x60" ++ name ++ "\x60")
    let ks ← entries (entry "key" "ThirdPartyKeyRepr" KeyEntry.mk depth) path value
    pure { lists with keys := some ks }
  else
    Decode.ignore value
    pure lists

/-- Read the root of the document. -/
def root : Option Node → Decode Allowlist
  | none => pure empty
  | some n => do
    let n ← Decode.follow n
    match n with
    | .mapping mark _ ns => Decode.placed mark "." do
      let lists ← Decode.members member ⟨none, none⟩ ns
      pure ⟨lists.emails.getD [], lists.keys.getD []⟩
    | .scalar mark _ _ | .sequence mark _ _ =>
      if Decode.isBlankScalar n then pure empty
      else Decode.placed mark "." (Decode.unexpected n "struct Allowlist")
    | .alias _ _ | .cut => Decode.cutOff

/-- The allowlist in a text. A blank text holds an empty one. -/
def ofText (text : String) : Except Fault Allowlist :=
  if Blank.isAllBlank text.toList then .ok empty
  else (Decode.run (Document.ofText text) root).mapError fun m =>
    .allowlist ("failed to parse allowlist configuration: " ++ m.message)

/-- The allowlist in a file, given what reading the file comes to. -/
def ofFile (path : String) (content : Except FileFault Bytes) : Except Fault Allowlist := do
  let unreadable (reason : String) : Fault :=
    .allowlist ("failed to read allowlist configuration file at '" ++ path ++ "': " ++ reason)
  let bytes ← content.mapError fun f => unreadable f.message
  match Utf8.decode bytes with
  | .ok text => ofText (String.ofList text)
  | .error _ => throw (unreadable "stream did not contain valid UTF-8")

end Allowlist

end CommitGate

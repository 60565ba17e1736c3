import CommitGate.Email
import CommitGate.Log
import CommitGate.ThirdParty

/-! # Allowlists

An allowlist names committers whose commits are trusted without a signature, and keys of third parties
whose signatures are trusted. Each entry holds for some repositories or for all.

* `Allowlist` is the list as it is configured.
* `Allowlist.resolve` keeps the usable entries that hold for one repository and reports the others.
-/

namespace CommitGate

/-- The repositories that an entry holds for, in order and without repetition. None means all. -/
structure Scope where
  repositories : List String
deriving DecidableEq, Repr

namespace Scope

/-- All repositories. -/
def all : Scope := ⟨[]⟩

/-- Put a name at its place among others in order, unless it is there. -/
def insert (name : String) : List String → List String
  | [] => [name]
  | n :: rest =>
    if name < n then name :: n :: rest else if name = n then n :: rest else n :: insert name rest

/-- The repositories of a list. -/
def ofList (names : List String) : Scope := ⟨names.foldr insert []⟩

/-- Whether an entry with this scope holds for a repository. -/
def holdsFor (s : Scope) (repository : String) : Bool :=
  s.repositories.isEmpty || s.repositories.contains repository

theorem mem_insert {name other : String} {names : List String} :
    other ∈ insert name names ↔ other = name ∨ other ∈ names := by
  induction names with
  | nil => simp [insert]
  | cons n rest ih =>
    unfold insert
    split
    · simp
    · split
      · rename_i h
        subst h
        simp
      · simp only [List.mem_cons, ih]
        constructor
        · rintro (h | h | h) <;> simp [h]
        · rintro (h | h | h) <;> simp [h]

theorem mem_ofList {name : String} {names : List String} :
    name ∈ (ofList names).repositories ↔ name ∈ names := by
  simp only [ofList]
  induction names with
  | nil => simp
  | cons n rest ih => simp [mem_insert, ih]

end Scope

/-- A committer who is trusted without a signature. -/
structure EmailEntry where
  address : String
  scope : Scope
deriving DecidableEq, Repr

/-- A key of a third party, as a key block. -/
structure KeyEntry where
  key : String
  scope : Scope
deriving DecidableEq, Repr

/-- An allowlist as it is configured. -/
structure Allowlist where
  emails : List EmailEntry
  keys : List KeyEntry
deriving DecidableEq, Repr

/-- An entry of an allowlist that cannot be used. -/
inductive Skipped where
  | email (index : Nat) (reason : Email.Invalid)
  | key (index : Nat) (reason : Keyring.Fault)
deriving DecidableEq, Repr

namespace Skipped

/-- The fault that is reported for a skipped entry. -/
def fault : Skipped → Fault
  | .email index reason => .allowlistEntry s!"email_addresses[{index}]: {reason.message}"
  | .key index reason => .allowlistEntry s!"third_party_keys[{index}]: {reason.message}"

/-- The record of a skipped entry. -/
def record : Skipped → Log.Record
  | .email index reason => ⟨.warn, "skipping allowlist email",
    [("index", .number index), ("error", .text reason.message)]⟩
  | .key index reason => ⟨.warn, "skipping allowlist key",
    [("index", .number index), ("error", .text reason.message)]⟩

end Skipped

/-- The entries of an allowlist that hold for one repository. -/
structure Applied where
  emails : List String
  keys : List ThirdParty.ListedKey
  skipped : List Skipped
deriving DecidableEq, Repr

namespace Applied

/-- No entries. -/
def none : Applied := ⟨[], [], []⟩

/-- The faults of the entries that cannot be used. -/
def faults (a : Applied) : List Fault := a.skipped.map Skipped.fault

/-- Whether no entry can be used. -/
def isEmpty (a : Applied) : Bool := a.emails.isEmpty && a.keys.isEmpty

end Applied

namespace Allowlist

/-- An allowlist without entries. -/
def empty : Allowlist := ⟨[], []⟩

/-- What an entry for an address comes to. -/
def useEmail (index : Nat) (e : EmailEntry) : Except Skipped String :=
  match Email.validate e.address with
  | .ok () => .ok e.address
  | .error reason => .error (.email index reason)

/-- What an entry for a key comes to. -/
def useKey (index : Nat) (e : KeyEntry) : Except Skipped ThirdParty.ListedKey :=
  match Keyring.ofBytes (Utf8.ofString e.key) with
  | .ok keyring => .ok ⟨index, keyring⟩
  | .error reason => .error (.key index reason)

/-- The successes and the failures of a list, each in order. -/
def partition {α β : Type} : List (Except β α) → List α × List β
  | [] => ([], [])
  | .ok a :: rest => let (as, bs) := partition rest; (a :: as, bs)
  | .error b :: rest => let (as, bs) := partition rest; (as, b :: bs)

/-- The entries that hold for a repository. One that cannot be used is skipped and reported. -/
def resolve (a : Allowlist) (repository : String) : Applied :=
  let emails := a.emails.zipIdx.filter fun (e, _) => e.scope.holdsFor repository
  let keys := a.keys.zipIdx.filter fun (e, _) => e.scope.holdsFor repository
  let (addresses, badEmails) := partition (emails.map fun (e, i) => useEmail i e)
  let (keyrings, badKeys) := partition (keys.map fun (e, i) => useKey i e)
  ⟨addresses, keyrings, badEmails ++ badKeys⟩

end Allowlist

end CommitGate

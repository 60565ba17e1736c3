import CommitGate.Allowlist.Basic

/-! # What an allowlist comes to in a repository

`Allowlist.resolve` walks both lists and sorts every entry into what can be used and what is reported.
Here both parts are told entry by entry:

* `resolve_emails`: the addresses of the usable entries, in order;
* `resolve_keys`: the keyrings of the usable entries, in order, each with its entry's place;
* `mem_resolve_emails`: an address applies exactly if a valid entry that covers the repository has it;
* `resolve_skipped`: the malformed entries that cover the repository are reported, in order;
* `faults_resolve`: each of them has one line.
-/

namespace CommitGate

/-! ## Scopes -/

/-- An entry covers a repository if it names it, or names none at all. -/
def Scope.Covers (s : Scope) (repository : String) : Prop :=
  s.repositories = [] ∨ repository ∈ s.repositories

theorem Scope.holdsFor_iff {s : Scope} {repository : String} :
    s.holdsFor repository = true ↔ s.Covers repository := by
  simp [Scope.holdsFor, Scope.Covers]

namespace Allowlist

/-! ## Usable entries -/

/-- The address that an entry contributes in a repository. -/
def usableAddress? (repository : String) (e : EmailEntry) : Option String :=
  if e.scope.holdsFor repository then (useEmail 0 e).toOption else none

/-- The keyring that an entry contributes in a repository. -/
def usableKeyring? (repository : String) (e : KeyEntry) : Option Keyring :=
  if e.scope.holdsFor repository then (Keyring.ofBytes (Utf8.ofString e.key)).toOption else none

theorem usableAddress?_eq_some_iff {repository address : String} {e : EmailEntry} :
    usableAddress? repository e = some address ↔
      e.scope.Covers repository ∧ Email.validate e.address = .ok () ∧ e.address = address := by
  rw [← Scope.holdsFor_iff]
  unfold usableAddress? useEmail
  cases hv : Email.validate e.address with
  | ok u => by_cases hs : e.scope.holdsFor repository <;> simp [hs, Except.toOption]
  | error reason => simp [Except.toOption]

theorem usableKeyring?_eq_some_iff {repository : String} {e : KeyEntry} {k : Keyring} :
    usableKeyring? repository e = some k ↔
      e.scope.Covers repository ∧ Keyring.ofBytes (Utf8.ofString e.key) = .ok k := by
  rw [← Scope.holdsFor_iff]
  unfold usableKeyring?
  cases hk : Keyring.ofBytes (Utf8.ofString e.key) with
  | ok k' => by_cases hs : e.scope.holdsFor repository <;> simp [hs, Except.toOption]
  | error reason => simp [Except.toOption]

/-! ## Resolving -/

/-- The failure of a computation that has failed. -/
def failure? {α ε : Type} : Except ε α → Option ε
  | .ok _ => none
  | .error e => some e

theorem failure?_eq_some_iff {α ε : Type} {x : Except ε α} {e : ε} :
    failure? x = some e ↔ x = .error e := by
  cases x <;> simp [failure?]

theorem partition_fst {α β : Type} (xs : List (Except β α)) :
    (partition xs).1 = xs.filterMap Except.toOption := by
  induction xs with
  | nil => rfl
  | cons x rest ih => cases x <;> simp [partition, Except.toOption, List.filterMap_cons, ih]

/-- The usable part of a walk over the entries that pass a test. -/
theorem partition_map_filter_fst {α β γ : Type} (xs : List α) (p : α → Bool)
    (f : α → Except γ β) :
    (partition ((xs.filter p).map f)).1 =
      xs.filterMap fun x => if p x then (f x).toOption else none := by
  rw [partition_fst, List.filterMap_map, List.filterMap_filter]
  rfl

theorem partition_snd {α β : Type} (xs : List (Except β α)) :
    (partition xs).2 = xs.filterMap failure? := by
  induction xs with
  | nil => rfl
  | cons x rest ih => cases x <;> simp [partition, failure?, List.filterMap_cons, ih]

/-- The reported part of the same walk. -/
theorem partition_map_filter_snd {α β γ : Type} (xs : List α) (p : α → Bool)
    (f : α → Except γ β) :
    (partition ((xs.filter p).map f)).2 =
      xs.filterMap fun x => if p x then failure? (f x) else none := by
  rw [partition_snd, List.filterMap_map, List.filterMap_filter]
  rfl

/-- The addresses of the usable entries, in order. -/
theorem resolve_emails (a : Allowlist) (repository : String) :
    (a.resolve repository).emails = a.emails.filterMap (usableAddress? repository) := by
  have places : (fun x : EmailEntry × Nat =>
      if x.1.scope.holdsFor repository then (useEmail x.2 x.1).toOption else none) =
      usableAddress? repository ∘ Prod.fst := by
    funext ⟨e, i⟩
    unfold usableAddress? useEmail
    cases hv : Email.validate e.address <;> simp [hv, Except.toOption]
  calc (a.resolve repository).emails
      = a.emails.zipIdx.filterMap (usableAddress? repository ∘ Prod.fst) := by
        rw [← places]
        exact partition_map_filter_fst a.emails.zipIdx _ _
    _ = a.emails.filterMap (usableAddress? repository) := by
        rw [← List.filterMap_map, List.zipIdx_map_fst]

/-- The keyrings of the usable entries, in order, each with its entry's place. -/
theorem resolve_keys (a : Allowlist) (repository : String) :
    (a.resolve repository).keys = a.keys.zipIdx.filterMap fun (e, i) =>
      (usableKeyring? repository e).map (ThirdParty.ListedKey.mk i) := by
  have keyrings : (fun x : KeyEntry × Nat =>
      if x.1.scope.holdsFor repository then (useKey x.2 x.1).toOption else none) =
      fun (e, i) => (usableKeyring? repository e).map (ThirdParty.ListedKey.mk i) := by
    funext ⟨e, i⟩
    unfold usableKeyring? useKey
    by_cases hs : e.scope.holdsFor repository
    · cases hk : Keyring.ofBytes (Utf8.ofString e.key) <;> simp [hs, hk, Except.toOption]
    · simp [hs]
  rw [← keyrings]
  exact partition_map_filter_fst a.keys.zipIdx _ _

/-- An address applies exactly if a valid entry that covers the repository has it. -/
theorem mem_resolve_emails {a : Allowlist} {repository address : String} :
    address ∈ (a.resolve repository).emails ↔ ∃ e ∈ a.emails,
      e.scope.Covers repository ∧ Email.validate e.address = .ok () ∧ e.address = address := by
  rw [resolve_emails, List.mem_filterMap]
  simp only [usableAddress?_eq_some_iff]

/-! ## What is reported -/

/-- Why an entry that covers the repository has no usable address. -/
def emailDefect? (repository : String) (e : EmailEntry) : Option Email.Invalid :=
  if e.scope.holdsFor repository then failure? (Email.validate e.address) else none

/-- Why an entry that covers the repository has no usable key. -/
def keyDefect? (repository : String) (e : KeyEntry) : Option Keyring.Fault :=
  if e.scope.holdsFor repository then failure? (Keyring.ofBytes (Utf8.ofString e.key)) else none

/-- The line for the entry of an address at a place of its list. -/
def emailLine (place : Nat) (reason : Email.Invalid) : String :=
  "invalid allowlist entry: " ++ ("email_addresses[" ++ toString place ++ "]: " ++ reason.message)

/-- The line for the entry of a key at a place of its list. -/
def keyLine (place : Nat) (reason : Keyring.Fault) : String :=
  "invalid allowlist entry: " ++ ("third_party_keys[" ++ toString place ++ "]: " ++ reason.message)

/-- A line for each malformed entry that covers the repository: those of addresses, then those of keys,
each with its place in its list. -/
def complaints (a : Allowlist) (repository : String) : List String :=
  (a.emails.zipIdx.filterMap fun (e, i) => (emailDefect? repository e).map (emailLine i)) ++
    a.keys.zipIdx.filterMap fun (e, i) => (keyDefect? repository e).map (keyLine i)

theorem failure?_useEmail (place : Nat) (e : EmailEntry) :
    failure? (useEmail place e) = (failure? (Email.validate e.address)).map (.email place) := by
  unfold useEmail
  cases Email.validate e.address <;> rfl

theorem failure?_useKey (place : Nat) (e : KeyEntry) :
    failure? (useKey place e) =
      (failure? (Keyring.ofBytes (Utf8.ofString e.key))).map (.key place) := by
  unfold useKey
  cases Keyring.ofBytes (Utf8.ofString e.key) <;> rfl

/-- What is reported: the malformed entries that cover the repository, in order, each with its entry's
place, those of addresses before those of keys. -/
theorem resolve_skipped (a : Allowlist) (repository : String) :
    (a.resolve repository).skipped =
      (a.emails.zipIdx.filterMap fun (e, i) => (emailDefect? repository e).map (Skipped.email i)) ++
      a.keys.zipIdx.filterMap fun (e, i) => (keyDefect? repository e).map (Skipped.key i) := by
  have emails : (fun x : EmailEntry × Nat =>
      if x.1.scope.holdsFor repository then failure? (useEmail x.2 x.1) else none) =
      fun (e, i) => (emailDefect? repository e).map (Skipped.email i) := by
    funext ⟨e, i⟩
    dsimp only
    rw [failure?_useEmail, emailDefect?]
    split <;> rfl
  have keys : (fun x : KeyEntry × Nat =>
      if x.1.scope.holdsFor repository then failure? (useKey x.2 x.1) else none) =
      fun (e, i) => (keyDefect? repository e).map (Skipped.key i) := by
    funext ⟨e, i⟩
    dsimp only
    rw [failure?_useKey, keyDefect?]
    split <;> rfl
  rw [← emails, ← keys, ← partition_map_filter_snd, ← partition_map_filter_snd]
  rfl

/-- The faults of the entries that cannot be used are reported in these lines. -/
theorem faults_resolve (a : Allowlist) (repository : String) :
    (a.resolve repository).faults.map Fault.message = a.complaints repository := by
  rw [Applied.faults, resolve_skipped, List.map_map, List.map_append, List.map_filterMap,
    List.map_filterMap, complaints]
  simp only [Option.map_map]
  rfl

end Allowlist

end CommitGate

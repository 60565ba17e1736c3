import CommitGate.Proofs.Allowlist
import CommitGate.Proofs.Except
import Mathlib.Data.List.Forall2
import Mathlib.Data.List.Nodup

/-! # Every entry at its place

Resolving an allowlist sorts the entries that cover the repository into those that can be used and those that
are reported.

* `Allowlist.located` walks a list and keeps places; it is determined by what it has at each place
  (`mem_located`, `eq_of_increasing`).
* `Allowlist.Sorting` says what sorting a list must give, place by place: nothing is lost, nothing is twice
  (`Sorting.nodup_places`, `Sorting.mem_places`).
* `Allowlist.resolve_exact`: resolving gives exactly this, whatever the mixture of scopes and malformed
  entries, and what does not cover the repository has no part in it.
-/

namespace CommitGate

/-- What the entry gives by itself: its address, unless that is malformed. -/
def EmailEntry.use (e : EmailEntry) : Except Email.Invalid String :=
  (Email.validate e.address).map fun _ => e.address

/-- What the entry gives by itself: the keyring of its block, unless that is malformed. -/
def KeyEntry.use (e : KeyEntry) : Except Keyring.Fault Keyring := Keyring.ofBytes (Utf8.ofString e.key)

namespace Allowlist

/-! ## Lists with places -/

/-- What a list gives, with places. -/
def located {α β : Type} (f : α → Option β) (entries : List α) : List (Nat × β) :=
  entries.zipIdx.filterMap fun (e, i) => (f e).map (i, ·)

section

variable {α β : Type} {f g : α → Option β} {entries entries' : List α}

theorem mem_located {i : Nat} {b : β} :
    (i, b) ∈ located f entries ↔ ∃ e, entries[i]? = some e ∧ f e = some b := by
  simp only [located, List.mem_filterMap, Prod.exists, List.mem_zipIdx_iff_getElem?,
    Option.map_eq_some_iff, Prod.mk.injEq]
  constructor
  · rintro ⟨e, j, he, b', hb, rfl, rfl⟩
    exact ⟨e, he, hb⟩
  · rintro ⟨e, he, hb⟩
    exact ⟨e, i, he, b, hb, rfl, rfl⟩

/-- Places are in order and none comes twice. -/
theorem located_increasing : ((located f entries).map Prod.fst).Pairwise (· < ·) := by
  have places : (entries.zipIdx.map Prod.snd).Pairwise (· < ·) := by
    rw [List.zipIdx_map_snd]
    exact List.pairwise_lt_range' 1
  rw [List.pairwise_map] at places ⊢
  refine places.filterMap _ fun x y lt b hb c hc => ?_
  obtain ⟨b', -, rfl⟩ := Option.map_eq_some_iff.1 hb
  obtain ⟨c', -, rfl⟩ := Option.map_eq_some_iff.1 hc
  exact lt

theorem map_snd_located : (located f entries).map Prod.snd = entries.filterMap f := by
  have forget : (fun x : α × Nat => ((f x.1).map (Prod.mk x.2)).map Prod.snd) = f ∘ Prod.fst := by
    funext ⟨e, i⟩
    cases h : f e <;> simp [h]
  rw [located, List.map_filterMap]
  calc entries.zipIdx.filterMap (fun x => ((f x.1).map (Prod.mk x.2)).map Prod.snd)
      = entries.zipIdx.filterMap (f ∘ Prod.fst) := by rw [forget]
    _ = entries.filterMap f := by rw [← List.filterMap_map, List.zipIdx_map_fst]

theorem map_located {γ : Type} (h : Nat → β → γ) :
    (located f entries).map (fun (i, b) => h i b) =
      entries.zipIdx.filterMap fun (e, i) => (f e).map (h i) := by
  simp only [located, List.map_filterMap, Option.map_map]
  rfl

/-- Two lists of entries that give the same everywhere give the same with places. -/
theorem located_congr (same : List.Forall₂ (fun e e' => f e = g e') entries entries') :
    located f entries = located g entries' := by
  unfold located
  generalize 0 = start
  induction same generalizing start with
  | nil => rfl
  | cons he _ ih => simp only [List.zipIdx_cons, List.filterMap_cons, he, ih]

/-- Lists with places in order are equal if they have the same elements. -/
theorem eq_of_increasing {xs ys : List (Nat × β)} (hx : (xs.map Prod.fst).Pairwise (· < ·))
    (hy : (ys.map Prod.fst).Pairwise (· < ·)) (same : ∀ z, z ∈ xs ↔ z ∈ ys) : xs = ys := by
  have nodup : ∀ {zs : List (Nat × β)}, (zs.map Prod.fst).Pairwise (· < ·) → zs.Nodup :=
    fun hz => List.Nodup.of_map Prod.fst (hz.imp Nat.ne_of_lt)
  have perm : xs.Perm ys := (List.perm_ext_iff_of_nodup (nodup hx) (nodup hy)).2 same
  rw [List.pairwise_map] at hx hy
  exact List.Perm.eq_of_pairwise (fun z z' _ _ lt gt => absurd gt (Nat.lt_asymm lt)) hx hy perm

end

/-! ## Sortings -/

/-- The entries in scope, each at its place with what it comes to. -/
structure Sorting {α β γ : Type} (inScope : α → Prop) (use : α → Except γ β) (entries : List α) where
  used : List (Nat × β)
  refused : List (Nat × γ)
  used_increasing : (used.map Prod.fst).Pairwise (· < ·)
  refused_increasing : (refused.map Prod.fst).Pairwise (· < ·)
  mem_used : ∀ i b, (i, b) ∈ used ↔ ∃ e, entries[i]? = some e ∧ inScope e ∧ use e = .ok b
  mem_refused : ∀ i c, (i, c) ∈ refused ↔ ∃ e, entries[i]? = some e ∧ inScope e ∧ use e = .error c

namespace Sorting

variable {α β γ : Type} {inScope : α → Prop} {use : α → Except γ β} {entries : List α}

/-- The places that have been sorted. -/
def places (s : Sorting inScope use entries) : List Nat := s.used.map Prod.fst ++ s.refused.map Prod.fst

/-- Nothing is lost, and nothing out of scope is sorted. -/
theorem mem_places (s : Sorting inScope use entries) (i : Nat) :
    i ∈ s.places ↔ ∃ e, entries[i]? = some e ∧ inScope e := by
  simp only [places, List.mem_append, List.mem_map, Prod.exists, exists_and_right, exists_eq_right]
  constructor
  · rintro (⟨b, h⟩ | ⟨c, h⟩)
    · obtain ⟨e, he, covers, -⟩ := (s.mem_used i b).1 h
      exact ⟨e, he, covers⟩
    · obtain ⟨e, he, covers, -⟩ := (s.mem_refused i c).1 h
      exact ⟨e, he, covers⟩
  · rintro ⟨e, he, covers⟩
    cases result : use e with
    | ok b => exact Or.inl ⟨b, (s.mem_used i b).2 ⟨e, he, covers, result⟩⟩
    | error c => exact Or.inr ⟨c, (s.mem_refused i c).2 ⟨e, he, covers, result⟩⟩

/-- Nothing is sorted twice. -/
theorem nodup_places (s : Sorting inScope use entries) : s.places.Nodup := by
  refine List.nodup_append.2
    ⟨s.used_increasing.imp Nat.ne_of_lt, s.refused_increasing.imp Nat.ne_of_lt, ?_⟩
  rintro i hi _ hj rfl
  obtain ⟨⟨_, b⟩, hb, rfl⟩ := List.mem_map.1 hi
  obtain ⟨⟨_, c⟩, hc, same⟩ := List.mem_map.1 hj
  cases same
  -- an entry would have been used and refused
  obtain ⟨e, he, -, used⟩ := (s.mem_used _ b).1 hb
  obtain ⟨e', he', -, refused⟩ := (s.mem_refused _ c).1 hc
  obtain rfl : e = e' := Option.some.inj (he.symm.trans he')
  cases used.symm.trans refused

/-- There is one sorting at most. -/
theorem used_eq (s t : Sorting inScope use entries) : s.used = t.used := by
  refine eq_of_increasing s.used_increasing t.used_increasing fun (i, b) => ?_
  rw [s.mem_used, t.mem_used]

@[inherit_doc used_eq]
theorem refused_eq (s t : Sorting inScope use entries) : s.refused = t.refused := by
  refine eq_of_increasing s.refused_increasing t.refused_increasing fun (i, c) => ?_
  rw [s.mem_refused, t.mem_refused]

end Sorting

/-! ## What resolving sorts -/

/-- The addresses of an allowlist, sorted for a repository. -/
abbrev EmailSorting (a : Allowlist) (repository : String) : Type :=
  Sorting (fun e => e.scope.Covers repository) EmailEntry.use a.emails

/-- The keys of an allowlist, sorted for a repository. -/
abbrev KeySorting (a : Allowlist) (repository : String) : Type :=
  Sorting (fun e => e.scope.Covers repository) KeyEntry.use a.keys

theorem usableAddress?_eq_some_iff_use {repository address : String} {e : EmailEntry} :
    usableAddress? repository e = some address ↔ e.scope.Covers repository ∧ e.use = .ok address := by
  rw [usableAddress?_eq_some_iff, EmailEntry.use, map_eq_ok_iff]
  constructor
  · rintro ⟨covers, valid, same⟩
    exact ⟨covers, (), valid, same⟩
  · rintro ⟨covers, _, valid, same⟩
    exact ⟨covers, valid, same⟩

theorem emailDefect?_eq_some_iff_use {repository : String} {e : EmailEntry} {reason : Email.Invalid} :
    emailDefect? repository e = some reason ↔
      e.scope.Covers repository ∧ e.use = .error reason := by
  rw [← Scope.holdsFor_iff, emailDefect?, EmailEntry.use]
  cases Email.validate e.address <;> by_cases hs : e.scope.holdsFor repository <;>
    simp [hs, failure?, Except.map]

theorem keyDefect?_eq_some_iff_use {repository : String} {e : KeyEntry} {reason : Keyring.Fault} :
    keyDefect? repository e = some reason ↔ e.scope.Covers repository ∧ e.use = .error reason := by
  rw [← Scope.holdsFor_iff, keyDefect?, KeyEntry.use, ← failure?_eq_some_iff]
  by_cases hs : e.scope.holdsFor repository <;> simp [hs]

/-- The sorting that resolving makes of the addresses. -/
def sortEmails (a : Allowlist) (repository : String) : a.EmailSorting repository where
  used := located (usableAddress? repository) a.emails
  refused := located (emailDefect? repository) a.emails
  used_increasing := located_increasing
  refused_increasing := located_increasing
  mem_used i b := by simp only [mem_located, usableAddress?_eq_some_iff_use]
  mem_refused i c := by simp only [mem_located, emailDefect?_eq_some_iff_use]

/-- The sorting that resolving makes of the keys. -/
def sortKeys (a : Allowlist) (repository : String) : a.KeySorting repository where
  used := located (usableKeyring? repository) a.keys
  refused := located (keyDefect? repository) a.keys
  used_increasing := located_increasing
  refused_increasing := located_increasing
  mem_used i b := by simp only [mem_located, usableKeyring?_eq_some_iff, KeyEntry.use]
  mem_refused i c := by simp only [mem_located, keyDefect?_eq_some_iff_use]

/-- What two sortings come to: the addresses, the keyrings with their places, and what is reported, that of
addresses in front. -/
def assemble {a : Allowlist} {repository : String} (emails : a.EmailSorting repository)
    (keys : a.KeySorting repository) : Applied where
  emails := emails.used.map Prod.snd
  keys := keys.used.map fun (i, keyring) => ⟨i, keyring⟩
  skipped := emails.refused.map (fun (i, reason) => .email i reason) ++
    keys.refused.map fun (i, reason) => .key i reason

theorem resolve_eq_assemble (a : Allowlist) (repository : String) :
    a.resolve repository = assemble (a.sortEmails repository) (a.sortKeys repository) := by
  have emails : (a.resolve repository).emails = (assemble (a.sortEmails repository)
      (a.sortKeys repository)).emails := by
    rw [resolve_emails]
    exact map_snd_located.symm
  have keys : (a.resolve repository).keys = (assemble (a.sortEmails repository)
      (a.sortKeys repository)).keys := by
    rw [resolve_keys]
    exact (map_located ThirdParty.ListedKey.mk).symm
  have skipped : (a.resolve repository).skipped = (assemble (a.sortEmails repository)
      (a.sortKeys repository)).skipped := by
    rw [resolve_skipped, ← map_located Skipped.email, ← map_located Skipped.key]
    rfl
  calc a.resolve repository
      = ⟨(a.resolve repository).emails, (a.resolve repository).keys, (a.resolve repository).skipped⟩ := rfl
    _ = assemble (a.sortEmails repository) (a.sortKeys repository) := by rw [emails, keys, skipped]

/-- Resolving gives the same if each entry comes to the same. -/
theorem resolve_congr {a b : Allowlist} {repository other : String}
    (emails : List.Forall₂ (fun e e' => usableAddress? repository e = usableAddress? other e' ∧
      emailDefect? repository e = emailDefect? other e') a.emails b.emails)
    (keys : List.Forall₂ (fun e e' => usableKeyring? repository e = usableKeyring? other e' ∧
      keyDefect? repository e = keyDefect? other e') a.keys b.keys) :
    a.resolve repository = b.resolve other := by
  have usedEmails := located_congr (emails.imp fun _ _ h => h.1)
  have refusedEmails := located_congr (emails.imp fun _ _ h => h.2)
  have usedKeys := located_congr (keys.imp fun _ _ h => h.1)
  have refusedKeys := located_congr (keys.imp fun _ _ h => h.2)
  rw [resolve_eq_assemble, resolve_eq_assemble]
  simp only [assemble, sortEmails, sortKeys, usedEmails, refusedEmails, usedKeys, refusedKeys]

/-! ## What has no part in it -/

/-- The second allowlist has the entries of the first one, except that entries that do not cover the
repository may have any others that do not in their places. -/
structure AgreesFor (repository : String) (a b : Allowlist) : Prop where
  emails : List.Forall₂ (fun e e' => e = e' ∨ ¬e.scope.Covers repository ∧ ¬e'.scope.Covers repository)
    a.emails b.emails
  keys : List.Forall₂ (fun e e' => e = e' ∨ ¬e.scope.Covers repository ∧ ¬e'.scope.Covers repository)
    a.keys b.keys

/-- The scopes of an allowlist's entries. -/
def scopes (a : Allowlist) : List Scope := a.emails.map EmailEntry.scope ++ a.keys.map KeyEntry.scope

/-- What does not cover the repository is not looked at. -/
theorem resolve_of_agreesFor {repository : String} {a b : Allowlist} (h : a.AgreesFor repository b) :
    a.resolve repository = b.resolve repository := by
  refine resolve_congr (h.emails.imp ?_) (h.keys.imp ?_)
  · rintro e e' (rfl | ⟨foreign, foreign'⟩)
    · exact ⟨rfl, rfl⟩
    · rw [← Scope.holdsFor_iff] at foreign foreign'
      simp [usableAddress?, emailDefect?, foreign, foreign']
  · rintro e e' (rfl | ⟨foreign, foreign'⟩)
    · exact ⟨rfl, rfl⟩
    · rw [← Scope.holdsFor_iff] at foreign foreign'
      simp [usableKeyring?, keyDefect?, foreign, foreign']

/-- Repositories that occur in the same scopes get the same. -/
theorem resolve_of_scopes {repository other : String} {a : Allowlist}
    (h : ∀ s ∈ a.scopes, repository ∈ s.repositories ↔ other ∈ s.repositories) :
    a.resolve repository = a.resolve other := by
  have covers : ∀ s ∈ a.scopes, s.holdsFor repository = s.holdsFor other := by
    intro s hs
    rw [Bool.eq_iff_iff, Scope.holdsFor_iff, Scope.holdsFor_iff, Scope.Covers, Scope.Covers, h s hs]
  refine resolve_congr ?_ ?_
  · rw [List.forall₂_same]
    intro e he
    have same := covers e.scope (List.mem_append_left _ (List.mem_map_of_mem he))
    simp only [usableAddress?, emailDefect?, same, and_self]
  · rw [List.forall₂_same]
    intro e he
    have same := covers e.scope (List.mem_append_right _ (List.mem_map_of_mem he))
    simp only [usableKeyring?, keyDefect?, same, and_self]

/-- Resolving sorts the entries that cover the repository, each of them once and no others: the valid addresses,
the keyrings with their places, and one line for each entry left, which ends nothing. Entries that do not
cover the repository are not looked at, and the repository's name counts only by the scopes it occurs in. -/
theorem resolve_exact (a : Allowlist) (repository : String) :
    Nonempty (a.EmailSorting repository) ∧ Nonempty (a.KeySorting repository) ∧
    (∀ (emails : a.EmailSorting repository) (keys : a.KeySorting repository),
      (a.resolve repository).emails = emails.used.map Prod.snd ∧
      (a.resolve repository).keys.map (fun k => (k.index, k.keyring)) = keys.used ∧
      (a.resolve repository).faults =
        emails.refused.map (fun (i, reason) =>
          .allowlistEntry s!"email_addresses[{i}]: {reason.message}") ++
        keys.refused.map (fun (i, reason) =>
          .allowlistEntry s!"third_party_keys[{i}]: {reason.message}") ∧
      (∀ f ∈ (a.resolve repository).faults, f.isFatal = false) ∧
      emails.places.Nodup ∧ keys.places.Nodup ∧
      (∀ i, i ∈ emails.places ↔ ∃ e, a.emails[i]? = some e ∧ e.scope.Covers repository) ∧
      (∀ i, i ∈ keys.places ↔ ∃ e, a.keys[i]? = some e ∧ e.scope.Covers repository)) ∧
    (∀ b, a.AgreesFor repository b → a.resolve repository = b.resolve repository) ∧
    (∀ other, (∀ s ∈ a.scopes, repository ∈ s.repositories ↔ other ∈ s.repositories) →
      a.resolve repository = a.resolve other) := by
  refine ⟨⟨a.sortEmails repository⟩, ⟨a.sortKeys repository⟩, fun emails keys => ?_,
    fun b h => resolve_of_agreesFor h, fun other h => resolve_of_scopes h⟩
  -- there is no other sorting than the one that resolving makes
  have resolved : a.resolve repository = assemble emails keys := by
    rw [resolve_eq_assemble, assemble, assemble, emails.used_eq (a.sortEmails repository),
      emails.refused_eq (a.sortEmails repository), keys.used_eq (a.sortKeys repository),
      keys.refused_eq (a.sortKeys repository)]
  have faults : (assemble emails keys).faults =
      emails.refused.map (fun (i, reason) =>
        Fault.allowlistEntry s!"email_addresses[{i}]: {reason.message}") ++
      keys.refused.map (fun (i, reason) =>
        Fault.allowlistEntry s!"third_party_keys[{i}]: {reason.message}") := by
    rw [Applied.faults, assemble, List.map_append, List.map_map, List.map_map]
    rfl
  rw [resolved]
  refine ⟨rfl, ?_, faults, ?_, emails.nodup_places, keys.nodup_places, emails.mem_places,
    keys.mem_places⟩
  · rw [assemble, List.map_map]
    exact List.map_id keys.used
  · intro f hf
    rw [faults, List.mem_append, List.mem_map, List.mem_map] at hf
    rcases hf with ⟨_, -, rfl⟩ | ⟨_, -, rfl⟩
    · rfl
    · rfl

end Allowlist

end CommitGate

import CommitGate.Proofs.Gate.Use

/-! # Entries that do not interfere

An entry of an allowlist that does not cover the repository is foreign there, and one that is no address
or holds no key is malformed. Such entries are idle: they can be left out, or put in at any places
(`Edited`), and a run stays what it was.

* `Edited.filterMap_eq`: what idle entries do not contribute to is the same after an edit;
* `sameUse_of_edited`: a run takes the same from both allowlists.

`runUntil_undisturbed` puts this together: the outcomes differ only in the lines that report malformed
entries, and foreign entries have no line (`Undisturbed`).
-/

namespace CommitGate

/-! ## Edits -/

/-- The second list arises from the first one by leaving out and putting in, at any places, elements
that are idle. -/
inductive Edited {α : Type} (idle : α → Prop) : List α → List α → Prop
  | nil : Edited idle [] []
  | keep {x : α} {xs ys : List α} (rest : Edited idle xs ys) : Edited idle (x :: xs) (x :: ys)
  | delete {x : α} {xs ys : List α} (h : idle x) (rest : Edited idle xs ys) : Edited idle (x :: xs) ys
  | insert {y : α} {xs ys : List α} (h : idle y) (rest : Edited idle xs ys) : Edited idle xs (y :: ys)

/-- What idle elements do not contribute to is the same after an edit. -/
theorem Edited.filterMap_eq {α β : Type} {idle : α → Prop} {f : α → Option β} {xs ys : List α}
    (edited : Edited idle xs ys) (h : ∀ x, idle x → f x = none) : xs.filterMap f = ys.filterMap f := by
  induction edited with
  | nil => rfl
  | keep rest ih => rw [List.filterMap_cons, List.filterMap_cons, ih]
  | delete hx rest ih => rw [List.filterMap_cons_none (h _ hx), ih]
  | insert hy rest ih => rw [List.filterMap_cons_none (h _ hy), ih]

/-- The entry does not cover the repository. -/
def EmailEntry.IsForeign (repository : String) (e : EmailEntry) : Prop := ¬ e.scope.Covers repository

@[inherit_doc EmailEntry.IsForeign]
def KeyEntry.IsForeign (repository : String) (e : KeyEntry) : Prop := ¬ e.scope.Covers repository

/-- The entry has a text that is no address. -/
def EmailEntry.IsMalformed (e : EmailEntry) : Prop := ∃ reason, Email.validate e.address = .error reason

/-- The entry has a block that holds no key. -/
def KeyEntry.IsMalformed (e : KeyEntry) : Prop :=
  ∃ reason, Keyring.ofBytes (Utf8.ofString e.key) = .error reason

namespace Allowlist

/-- The second allowlist arises from the first one by edits with such entries in both lists. -/
structure EditedBy (email : EmailEntry → Prop) (key : KeyEntry → Prop) (a b : Allowlist) : Prop where
  emails : Edited email a.emails b.emails
  keys : Edited key a.keys b.keys

/-- The edits leave out and put in foreign and malformed entries. -/
def EditedByIdle (repository : String) : Allowlist → Allowlist → Prop :=
  EditedBy (fun e => e.IsForeign repository ∨ e.IsMalformed)
    (fun e => e.IsForeign repository ∨ e.IsMalformed)

/-- The edits leave out and put in foreign entries. -/
def EditedByForeign (repository : String) : Allowlist → Allowlist → Prop :=
  EditedBy (fun e => e.IsForeign repository) (fun e => e.IsForeign repository)

/-- What is wrong with the malformed entries that cover the repository, in order. -/
def defects (a : Allowlist) (repository : String) : List Email.Invalid × List Keyring.Fault :=
  (a.emails.filterMap (emailDefect? repository), a.keys.filterMap (keyDefect? repository))

/-! ## Idle entries contribute nothing -/

theorem usableAddress?_of_idle {repository : String} {e : EmailEntry}
    (h : e.IsForeign repository ∨ e.IsMalformed) : usableAddress? repository e = none := by
  rw [Option.eq_none_iff_forall_ne_some]
  intro address usable
  obtain ⟨covers, valid, -⟩ := usableAddress?_eq_some_iff.1 usable
  rcases h with foreign | ⟨reason, invalid⟩
  · exact foreign covers
  · cases valid.symm.trans invalid

theorem usableKeyring?_of_idle {repository : String} {e : KeyEntry}
    (h : e.IsForeign repository ∨ e.IsMalformed) : usableKeyring? repository e = none := by
  rw [Option.eq_none_iff_forall_ne_some]
  intro keyring usable
  obtain ⟨covers, read⟩ := usableKeyring?_eq_some_iff.1 usable
  rcases h with foreign | ⟨reason, unread⟩
  · exact foreign covers
  · cases read.symm.trans unread

theorem emailDefect?_of_foreign {repository : String} {e : EmailEntry} (h : e.IsForeign repository) :
    emailDefect? repository e = none := by
  rw [EmailEntry.IsForeign, ← Scope.holdsFor_iff] at h
  exact if_neg h

theorem keyDefect?_of_foreign {repository : String} {e : KeyEntry} (h : e.IsForeign repository) :
    keyDefect? repository e = none := by
  rw [KeyEntry.IsForeign, ← Scope.holdsFor_iff] at h
  exact if_neg h

/-- Edits with foreign entries report nothing new, and nothing less. -/
theorem defects_of_edited {repository : String} {a b : Allowlist}
    (edited : a.EditedByForeign repository b) : a.defects repository = b.defects repository := by
  have emails := edited.emails.filterMap_eq fun _ => emailDefect?_of_foreign
  have keys := edited.keys.filterMap_eq fun _ => keyDefect?_of_foreign
  rw [defects, defects, emails, keys]

/-- The keyrings that apply, without the places of their entries. -/
theorem resolve_keyrings (a : Allowlist) (repository : String) :
    (a.resolve repository).keys.map ThirdParty.ListedKey.keyring =
      a.keys.filterMap (usableKeyring? repository) := by
  have places : (fun x : KeyEntry × Nat => ((usableKeyring? repository x.1).map
      (ThirdParty.ListedKey.mk x.2)).map ThirdParty.ListedKey.keyring) =
      usableKeyring? repository ∘ Prod.fst := by
    funext ⟨e, i⟩
    cases h : usableKeyring? repository e <;> simp [h]
  calc (a.resolve repository).keys.map ThirdParty.ListedKey.keyring
      = a.keys.zipIdx.filterMap (usableKeyring? repository ∘ Prod.fst) := by
        rw [resolve_keys, List.map_filterMap, ← places]
    _ = a.keys.filterMap (usableKeyring? repository) := by
        rw [← List.filterMap_map, List.zipIdx_map_fst]

end Allowlist

namespace Gate

variable {g : Gate} {commit : Commit} {a b : Allowlist}

/-- A run takes the same from both allowlists. -/
theorem sameUse_of_edited (edited : a.EditedByIdle g.repository b) :
    SameUse g commit (a.resolve g.repository) (b.resolve g.repository) where
  email := by
    rw [Allowlist.resolve_emails, Allowlist.resolve_emails,
      edited.emails.filterMap_eq fun _ => Allowlist.usableAddress?_of_idle]
  count := by
    have keyrings := edited.keys.filterMap_eq fun _ => Allowlist.usableKeyring?_of_idle
    rw [← Allowlist.resolve_keyrings, ← Allowlist.resolve_keyrings] at keyrings
    simpa using congrArg List.length keyrings
  signer := by
    unfold listedSigner? ThirdParty.check
    cases commit.signatureBytes with
    | none => rfl
    | some signature =>
      have signers := edited.keys.filterMap_eq
        (f := ThirdParty.signerOf? g.now g.repository commit.payload signature) fun e idle => by
          rw [ThirdParty.signerOf?, Allowlist.usableKeyring?_of_idle idle, Option.bind_none]
      simp only [ThirdParty.tryKeys_resolve_signer, ← List.head?_filterMap, signers]

/-- Two runs that differ only in what their outcomes report about malformed entries. -/
structure Undisturbed (g : Gate) (cancelled : Awaited Unit) (commit : Commit) (a b : Allowlist) :
    Prop where
  events : (g.runUntil cancelled commit (a.resolve g.repository)).events =
    (g.runUntil cancelled commit (b.resolve g.repository)).events
  calls : (g.runUntil cancelled commit (a.resolve g.repository)).calls =
    (g.runUntil cancelled commit (b.resolve g.repository)).calls
  polls : (g.runUntil cancelled commit (a.resolve g.repository)).polls =
    (g.runUntil cancelled commit (b.resolve g.repository)).polls
  /-- Both runs end or none does. Their outcomes are the same but for a line in front of the errors for
  each malformed entry that covers the repository; else there is the text of a FAIL at most. -/
  outcomes : ∃ plain : Option Outcome,
    (∀ o ∈ plain, o.errors = if o.passed then [] else [o.description]) ∧
    (g.runUntil cancelled commit (a.resolve g.repository)).outcome =
      plain.map (Outcome.warned (a.complaints g.repository)) ∧
    (g.runUntil cancelled commit (b.resolve g.repository)).outcome =
      plain.map (Outcome.warned (b.complaints g.repository))
  /-- Foreign entries change the places in these lines at most. -/
  foreign : a.EditedByForeign g.repository b → a.defects g.repository = b.defects g.repository

/-- The outcome of a run is the report of its decision with a line for each malformed entry. -/
theorem outcome_eq_warned (cancelled : Awaited Unit) :
    (g.runUntil cancelled commit (a.resolve g.repository)).outcome =
      ((checkEmail g cancelled commit (a.resolve g.repository)).decision.map
        fun v => report g commit .none v.1).map (Outcome.warned (a.complaints g.repository)) := by
  rw [outcome_runUntil, Option.map_map, ← Allowlist.faults_resolve]
  congr 1
  funext v
  exact report_eq_warned g commit _ v.1

/-- Without malformed entries, a PASS has no errors and a FAIL has its text. -/
theorem errors_report_none (g : Gate) (commit : Commit) (d : Decision) :
    (report g commit .none d).errors =
      if (report g commit .none d).passed then [] else [(report g commit .none d).description] := by
  cases d <;> rfl

/-- Foreign and malformed entries can be left out of an allowlist, or put into it at any places, and a
run with any authority and any cancellation is told, asks and ends as before: its outcome differs only
in the lines about malformed entries that cover the repository, and in the places that these name. -/
theorem runUntil_undisturbed (g : Gate) (cancelled : Awaited Unit) (commit : Commit) {a b : Allowlist}
    (edited : a.EditedByIdle g.repository b) : Undisturbed g cancelled commit a b := by
  have same : SameUse g commit (a.resolve g.repository) (b.resolve g.repository) :=
    sameUse_of_edited edited
  have alike := alike_checkEmail cancelled same
  exact {
    events := by rw [events_runUntil, events_runUntil, alike.events, alike.decision]
    calls := by rw [calls_runUntil, calls_runUntil, alike.calls]
    polls := by rw [polls_runUntil, polls_runUntil, alike.decision]
    outcomes := by
      refine ⟨_, ?_, outcome_eq_warned cancelled, ?_⟩
      · intro o ho
        obtain ⟨v, -, rfl⟩ := Option.map_eq_some_iff.1 ho
        exact errors_report_none g commit v.1
      · rw [alike.decision]
        exact outcome_eq_warned cancelled
    foreign := Allowlist.defects_of_edited }

/-- An entry for another repository, a text that is no address and a block that holds no key are put into
an allowlist, around the entry that makes the commit pass. -/
theorem runUntil_undisturbed_listed_committer :
    let g : Gate := ⟨"example/library", fun _ _ => .never, 0⟩
    let dev : Person := ⟨"Dev", "dev@example.com", ⟨0, 0, 0⟩⟩
    let commit : Commit := ⟨"", "", [], dev, dev, "Start", none, []⟩
    let a : Allowlist := ⟨[⟨"dev@example.com", .all⟩], []⟩
    let b : Allowlist := ⟨[⟨"dev@example.com", ⟨["example/other"]⟩⟩, ⟨"dev@example.com", .all⟩,
      ⟨"dev", .all⟩], [⟨"no key", .all⟩]⟩
    a.EditedByIdle g.repository b ∧ a.defects g.repository = ([], []) ∧
      b.defects g.repository = ([⟨"dev"⟩], [.block (.read .endOfInput)]) ∧
      Undisturbed g .never commit a b := by
  intro g dev commit a b
  have foreign : EmailEntry.IsForeign g.repository ⟨"dev@example.com", ⟨["example/other"]⟩⟩ := by
    simp [EmailEntry.IsForeign, Scope.Covers, g]
  have nobody : EmailEntry.IsMalformed ⟨"dev", .all⟩ := ⟨⟨"dev"⟩, rfl⟩
  have nothing : KeyEntry.IsMalformed ⟨"no key", .all⟩ :=
    ⟨.block (.read .endOfInput), Allowlist.failure?_eq_some_iff.1 (by decide +kernel)⟩
  have edited : a.EditedByIdle g.repository b :=
    ⟨.insert (.inl foreign) (.keep (.insert (.inr nobody) .nil)), .insert (.inr nothing) .nil⟩
  exact ⟨edited, by decide +kernel, by decide +kernel, runUntil_undisturbed g .never commit edited⟩

end Gate

end CommitGate

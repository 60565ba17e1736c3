import CommitGate.Proofs.Gate.Reach

/-! # Which commits are trusted

The gate's verdict beside the three reasons for trusting a commit, each told without the gate:

* `Allowlist.Names`: an entry for the repository has the committer's address;
* `Allowlist.HasKeyFor`: an entry for the repository has a key that made the signature;
* `Authority.Grants`: the authority lets the key that the signature names sign for the committer, and
  the signature verifies with the key in that same answer.

`run_trusts` says that a run that is not cancelled and is answered ends, that it passes exactly if one
of the reasons holds, and that its outcome names the first of them that does (`TrustedBy`).
-/

namespace CommitGate

/-! ## Reasons for trust -/

/-- A valid entry that covers the repository has the address, in upper or lower case. -/
def Allowlist.Names (a : Allowlist) (repository email : String) : Prop :=
  ∃ e ∈ a.emails, e.scope.Covers repository ∧ Email.validate e.address = .ok () ∧
    Lowercase.lowercase e.address.toList = Lowercase.lowercase email.toList

/-- The entry covers the repository, and its key block holds the signer of the commit. -/
def KeyEntry.SignedBy (e : KeyEntry) (repository : String) (now : Nat) (commit : Commit)
    (signer : Signer) : Prop :=
  e.scope.Covers repository ∧ ∃ keyring signature,
    Keyring.ofBytes (Utf8.ofString e.key) = .ok keyring ∧
    commit.signatureBytes = some signature ∧
    keyring.verify now commit.payload signature = .ok signer

/-- Some entry's key block holds the signer of the commit. -/
def Allowlist.HasKeyFor (a : Allowlist) (repository : String) (now : Nat) (commit : Commit) : Prop :=
  ∃ e ∈ a.keys, ∃ signer, e.SignedBy repository now commit signer

/-- The signer of the commit that the first of the entries that hold one names. -/
def Allowlist.FirstSigner (a : Allowlist) (repository : String) (now : Nat) (commit : Commit)
    (signer : Signer) : Prop :=
  ∃ before e after, a.keys = before ++ e :: after ∧ e.SignedBy repository now commit signer ∧
    ∀ e' ∈ before, ∀ signer', ¬ e'.SignedBy repository now commit signer'

/-- The signature names the key id, the authority answers that this key may sign for the committer, and
the key in this answer verifies the signature. -/
def Authority.Grants (authority : Authority) (now : Nat) (commit : Commit) (keyId : String) : Prop :=
  ∃ signature envelope polls answer keyring signer,
    commit.signatureBytes = some signature ∧ Envelope.parse signature = .ok envelope ∧
    envelope.issuerKeyId = keyId ∧
    (authority keyId commit.committer.email).arrival? = some (polls, .ok answer) ∧
    answer.authorized = true ∧ Keyring.ofBase64 answer.key.base64 = .ok keyring ∧
    keyring.verify now commit.payload signature = .ok signer

/-- The authority answers, at some time, the question that the commit's signature leads to. -/
def Authority.AnswersFor (authority : Authority) (commit : Commit) : Prop :=
  ∀ signature envelope, commit.signatureBytes = some signature →
    Envelope.parse signature = .ok envelope →
    ∃ polls answer,
      (authority envelope.issuerKeyId commit.committer.email).arrival? = some (polls, answer)

namespace Gate

/-- The first reason that holds, as it is reported. -/
inductive TrustedBy (g : Gate) (a : Allowlist) (commit : Commit) : TrustSource → Prop
  | email (names : a.Names g.repository commit.committer.email) :
    TrustedBy g a commit (.emailAddress commit.committer.email)
  | key {signer : Signer} (unnamed : ¬ a.Names g.repository commit.committer.email)
      (first : a.FirstSigner g.repository g.now commit signer) :
    TrustedBy g a commit (.thirdPartyKey signer)
  | authority {keyId : String} (unnamed : ¬ a.Names g.repository commit.committer.email)
      (keyless : ¬ a.HasKeyFor g.repository g.now commit)
      (grants : g.authority.Grants g.now commit keyId) :
    TrustedBy g a commit (.managedKey keyId commit.committer.email)

variable {g : Gate} {a : Allowlist} {commit : Commit}

/-! ## The allowlist's part -/

/-- The gate finds an address exactly if an entry has it. -/
theorem isAllowed_resolve_iff {repository email : String} :
    Email.isAllowed email (a.resolve repository).emails = true ↔ a.Names repository email := by
  simp only [Email.isAllowed, List.any_eq_true, Email.sameIgnoringCase, beq_iff_eq,
    Allowlist.mem_resolve_emails, Allowlist.Names]
  constructor
  · rintro ⟨_, ⟨e, he, hs, hv, rfl⟩, hl⟩
    exact ⟨e, he, hs, hv, hl⟩
  · rintro ⟨e, he, hs, hv, hl⟩
    exact ⟨_, ⟨e, he, hs, hv, rfl⟩, hl⟩

theorem signerOf?_eq_some_iff {repository : String} {now : Nat} {signature : Bytes} {e : KeyEntry}
    {signer : Signer} (hs : commit.signatureBytes = some signature) :
    ThirdParty.signerOf? now repository commit.payload signature e = some signer ↔
      e.SignedBy repository now commit signer := by
  simp only [ThirdParty.signerOf?, Option.bind_eq_some_iff, Allowlist.usableKeyring?_eq_some_iff,
    KeyEntry.SignedBy, hs, Option.some.injEq]
  constructor
  · rintro ⟨k, ⟨hc, hk⟩, hv⟩
    cases h : k.verify now commit.payload signature with
    | error fault => simp [h, Except.toOption] at hv
    | ok s =>
      simp only [h, Except.toOption, Option.some.injEq] at hv
      exact ⟨hc, k, signature, hk, rfl, hv ▸ h⟩
  · rintro ⟨hc, k, _, hk, rfl, hv⟩
    exact ⟨k, ⟨hc, hk⟩, by simp [hv, Except.toOption]⟩

theorem signerOf?_eq_none_iff {repository : String} {now : Nat} {signature : Bytes} {e : KeyEntry}
    (hs : commit.signatureBytes = some signature) :
    ThirdParty.signerOf? now repository commit.payload signature e = none ↔
      ∀ signer, ¬ e.SignedBy repository now commit signer := by
  simp only [Option.eq_none_iff_forall_ne_some, ne_eq, signerOf?_eq_some_iff hs]

/-- The gate finds a signer exactly if the first entry that holds one names it. -/
theorem listedSigner?_resolve_eq_some_iff {signer : Signer} :
    listedSigner? g commit (a.resolve g.repository) = some signer ↔
      a.FirstSigner g.repository g.now commit signer := by
  unfold listedSigner? ThirdParty.check
  cases hs : commit.signatureBytes with
  | none => simp [ThirdParty.Check.signer?, Allowlist.FirstSigner, KeyEntry.SignedBy, hs]
  | some signature =>
    simp only [ThirdParty.tryKeys_resolve_signer, List.findSome?_eq_some_iff,
      signerOf?_eq_some_iff hs, signerOf?_eq_none_iff hs, Allowlist.FirstSigner]

/-- The gate finds no signer exactly if no entry holds one. -/
theorem listedSigner?_resolve_eq_none_iff :
    listedSigner? g commit (a.resolve g.repository) = none ↔
      ¬ a.HasKeyFor g.repository g.now commit := by
  unfold listedSigner? ThirdParty.check
  cases hs : commit.signatureBytes with
  | none => simp [ThirdParty.Check.signer?, Allowlist.HasKeyFor, KeyEntry.SignedBy, hs]
  | some signature =>
    simp only [ThirdParty.tryKeys_resolve_signer, List.findSome?_eq_none_iff,
      signerOf?_eq_none_iff hs, Allowlist.HasKeyFor, not_exists, not_and]

theorem unlisted_resolve_iff :
    Unlisted g commit (a.resolve g.repository) ↔
      ¬ a.Names g.repository commit.committer.email ∧ ¬ a.HasKeyFor g.repository g.now commit := by
  rw [← isAllowed_resolve_iff, ← listedSigner?_resolve_eq_none_iff, Bool.not_eq_true]
  exact ⟨fun h => ⟨h.email, h.key⟩, fun h => ⟨h.1, h.2⟩⟩

/-- A first signer is the signer of some entry, and every entry with a signer has a first one. -/
theorem exists_firstSigner_iff :
    (∃ signer, a.FirstSigner g.repository g.now commit signer) ↔
      a.HasKeyFor g.repository g.now commit := by
  simp only [← listedSigner?_resolve_eq_some_iff]
  rw [← Option.isSome_iff_exists, Option.isSome_iff_ne_none, ne_eq,
    listedSigner?_resolve_eq_none_iff, Classical.not_not]

/-! ## The authority's part -/

/-- The last stage passes exactly if the key of the answer verifies the signature. -/
theorem verifySignature_eq_ok_iff {now : Nat} {envelope : Envelope} {answer : Authorization}
    {source : TrustSource} :
    verifySignature now commit envelope answer = .ok source ↔
      source = .managedKey envelope.issuerKeyId commit.committer.email ∧
      ∃ keyring signer, Keyring.ofBase64 answer.key.base64 = .ok keyring ∧
        keyring.verify now commit.payload envelope.raw = .ok signer := by
  simp only [verifySignature, map_eq_ok_iff, Keyring.verifyWith_eq_ok_iff]
  constructor
  · rintro ⟨signer, ⟨keyring, hk, hv⟩, rfl⟩
    exact ⟨rfl, keyring, signer, hk, hv⟩
  · rintro ⟨rfl, keyring, signer, hk, hv⟩
    exact ⟨signer, ⟨keyring, hk, hv⟩, rfl⟩

/-- Once the signature is read, the authority is asked one question, and its answer decides. -/
theorem grants_iff_of_reads {envelope : Envelope} {keyId : String} (hr : Reads commit envelope) :
    g.authority.Grants g.now commit keyId ↔
      keyId = envelope.issuerKeyId ∧ ∃ polls answer,
        (g.authority envelope.issuerKeyId commit.committer.email).arrival? = some (polls, .ok answer) ∧
        answer.authorized = true ∧ ∃ keyring signer,
          Keyring.ofBase64 answer.key.base64 = .ok keyring ∧
          keyring.verify g.now commit.payload envelope.raw = .ok signer := by
  obtain ⟨signature, hs, he⟩ := hr
  rw [raw_of_parse he]
  constructor
  · rintro ⟨signature', envelope', polls, answer, keyring, signer, hs', he', rfl, ht, ha, hk, hv⟩
    obtain rfl : signature = signature' := Option.some.inj (hs.symm.trans hs')
    obtain rfl : envelope = envelope' := Except.ok.inj (he.symm.trans he')
    exact ⟨rfl, polls, answer, ht, ha, keyring, signer, hk, hv⟩
  · rintro ⟨rfl, polls, answer, ht, ha, keyring, signer, hk, hv⟩
    exact ⟨signature, envelope, polls, answer, keyring, signer, hs, he, rfl, ht, ha, hk, hv⟩

/-! ## The verdict -/

/-- When the allowlist does not help, only the authority can make the commit trusted. -/
theorem trustedBy_iff_of_unlisted {source : TrustSource}
    (hu : Unlisted g commit (a.resolve g.repository)) :
    TrustedBy g a commit source ↔
      ∃ keyId, source = .managedKey keyId commit.committer.email ∧
        g.authority.Grants g.now commit keyId := by
  obtain ⟨unnamed, keyless⟩ := unlisted_resolve_iff.1 hu
  constructor
  · intro h
    cases h with
    | email names => exact absurd names unnamed
    | key _ first => exact absurd (exists_firstSigner_iff.1 ⟨_, first⟩) keyless
    | authority _ _ grants => exact ⟨_, rfl, grants⟩
  · rintro ⟨keyId, rfl, grants⟩
    exact .authority unnamed keyless grants

/-- What decides a run without cancellation passes it exactly for the first reason that holds. -/
theorem Cause.eq_ok_iff {d : Decision} {source : TrustSource}
    (cause : Cause g .never commit (a.resolve g.repository) d) :
    d = .ok source ↔ TrustedBy g a commit source := by
  cases cause with
  | emailAllowed h =>
    -- the first reason holds, and the two others ask that it does not
    have names := isAllowed_resolve_iff.1 h
    constructor
    · intro hd
      cases hd
      exact .email names
    · intro ht
      cases ht with
      | email _ => rfl
      | key unnamed _ => exact absurd names unnamed
      | authority unnamed _ _ => exact absurd names unnamed
  | keyFound hm h =>
    have unnamed : ¬ a.Names g.repository commit.committer.email := by
      rw [← isAllowed_resolve_iff, hm]
      exact Bool.false_ne_true
    have first := listedSigner?_resolve_eq_some_iff.1 h
    constructor
    · intro hd
      cases hd
      exact .key unnamed first
    · intro ht
      cases ht with
      | email names => exact absurd names unnamed
      | key _ first' =>
        have := h.symm.trans (listedSigner?_resolve_eq_some_iff.2 first')
        rw [Option.some.inj this]
      | authority _ keyless _ => exact absurd (exists_firstSigner_iff.1 ⟨_, first⟩) keyless
  -- from here on only the authority's grant is left, and it needs a signature that can be read
  | unsigned hu h =>
    rw [trustedBy_iff_of_unlisted hu]
    constructor
    · intro hd
      cases hd
    · rintro ⟨_, -, signature, _, _, _, _, _, hs, -⟩
      cases h.symm.trans hs
  | unreadable hu hs h =>
    rw [trustedBy_iff_of_unlisted hu]
    constructor
    · intro hd
      cases hd
    · rintro ⟨_, -, signature, _, _, _, _, _, hs', he, -⟩
      obtain rfl := Option.some.inj (hs.symm.trans hs')
      cases h.symm.trans he
  | cancelled hu hr h => cases h.1
  -- the answer is taken as it comes, and it is the one that a grant speaks of
  | unanswered hu hr h =>
    simp only [trustedBy_iff_of_unlisted hu, grants_iff_of_reads hr, h.1]
    simp
  | denied hu hr h ha =>
    simp only [trustedBy_iff_of_unlisted hu, grants_iff_of_reads hr, h.1]
    simp [ha]
  | verified hu hr h ha =>
    rw [verifySignature_eq_ok_iff, trustedBy_iff_of_unlisted hu]
    simp only [grants_iff_of_reads hr, h.1, Option.some.injEq, Prod.mk.injEq, Except.ok.injEq]
    constructor
    · rintro ⟨rfl, holds⟩
      exact ⟨_, rfl, rfl, _, _, ⟨rfl, rfl⟩, ha, holds⟩
    · rintro ⟨_, rfl, rfl, _, _, ⟨rfl, rfl⟩, -, holds⟩
      exact ⟨rfl, holds⟩

/-- Every reason for trust is the first one, or comes after another. -/
theorem exists_trustedBy_iff :
    (∃ source, TrustedBy g a commit source) ↔
      a.Names g.repository commit.committer.email ∨ a.HasKeyFor g.repository g.now commit ∨
        ∃ keyId, g.authority.Grants g.now commit keyId := by
  constructor
  · rintro ⟨source, h⟩
    cases h with
    | email names => exact .inl names
    | key _ first => exact .inr (.inl (exists_firstSigner_iff.1 ⟨_, first⟩))
    | authority _ _ grants => exact .inr (.inr ⟨_, grants⟩)
  · intro h
    -- the reasons are tried in the order in which they are reported
    by_cases names : a.Names g.repository commit.committer.email
    · exact ⟨_, .email names⟩
    by_cases holds : a.HasKeyFor g.repository g.now commit
    · obtain ⟨signer, first⟩ := exists_firstSigner_iff.2 holds
      exact ⟨_, .key names first⟩
    rcases h with h | h | ⟨keyId, grants⟩
    · exact absurd h names
    · exact absurd h holds
    · exact ⟨_, .authority names holds grants⟩

/-- An answered run that is not cancelled ends, for some cause. -/
theorem exists_cause (answers : g.authority.AnswersFor commit) (allowed : Applied) :
    ∃ d, (g.run commit allowed).outcome = some (report g commit allowed d) ∧
      Cause g .never commit allowed d := by
  cases hd : (checkEmail g .never commit allowed).decision with
  | none =>
    obtain ⟨steps, walk⟩ := walk_checkEmail g .never commit allowed
    obtain ⟨envelope, -, ⟨signature, hs, he⟩, -, silent⟩ := walk.waits_of_endless trivial hd
    obtain ⟨polls, answer, arrives⟩ := answers signature envelope hs he
    cases silent.symm.trans arrives
  | some verdict =>
    obtain ⟨d, polls⟩ := verdict
    exact ⟨d, by rw [run, runUntil_of_decided hd], cause_of_run hd⟩

/-- A run that is not cancelled and is answered ends. It passes exactly if the committer's address is
listed, a listed key has made the signature, or the authority grants the key that has; and the outcome
names the first of these reasons that holds. -/
theorem run_trusts (g : Gate) (a : Allowlist) (commit : Commit)
    (answers : g.authority.AnswersFor commit) :
    ∃ o, (g.run commit (a.resolve g.repository)).outcome = some o ∧
      (o.passed = true ↔ a.Names g.repository commit.committer.email ∨
        a.HasKeyFor g.repository g.now commit ∨ ∃ keyId, g.authority.Grants g.now commit keyId) ∧
      ∀ source, o.source = some source ↔ TrustedBy g a commit source := by
  obtain ⟨d, ho, cause⟩ := exists_cause answers (a.resolve g.repository)
  have named : ∀ source, (report g commit (a.resolve g.repository) d).source = some source ↔
      TrustedBy g a commit source := by
    intro source
    rw [← cause.eq_ok_iff]
    cases d <;> simp [report, Outcome.pass, Outcome.fail]
  refine ⟨_, ho, ?_, named⟩
  -- a report passes exactly if it names a source
  rw [← exists_trustedBy_iff, ← exists_congr named]
  cases d <;> simp [report, Outcome.passed, Outcome.pass, Outcome.fail]

/-- An unsigned commit of a listed committer passes, in whatever letters the address is listed. -/
theorem run_trusts_listed_committer :
    let g : Gate := ⟨"example/library", fun _ _ => .ready (.ok .blank), 0⟩
    let dev : Person := ⟨"Dev", "dev@example.com", ⟨0, 0, 0⟩⟩
    let commit : Commit := ⟨"", "", [], dev, dev, "Start", none, []⟩
    let a : Allowlist := ⟨[⟨"Dev@Example.com", ⟨["example/library"]⟩⟩], []⟩
    g.authority.AnswersFor commit ∧
      ∃ o, (g.run commit (a.resolve g.repository)).outcome = some o ∧ o.passed = true ∧
        o.source = some (.emailAddress "dev@example.com") := by
  intro g dev commit a
  have answers : g.authority.AnswersFor commit := fun _ _ _ _ => ⟨0, _, rfl⟩
  have names : a.Names g.repository commit.committer.email :=
    ⟨_, List.mem_singleton_self _, .inr (List.mem_singleton_self _), rfl, by decide⟩
  obtain ⟨o, ends, passes, named⟩ := run_trusts g a commit answers
  exact ⟨answers, o, ends, passes.2 (.inl names), (named _).2 (.email names)⟩

end Gate

end CommitGate

import CommitGate.Proofs.Gate.Trust
import CommitGate.Proofs.Gate.Use

/-! # More entries, and entries in another order

What the entries of an allowlist decide depends on which entries there are, and not on their number or
order: an entry names the committer or none does, and an entry's key has made the signature or none has.

* `Allowlist.Names.mono`, `Allowlist.HasKeyFor.mono`: more entries give no fewer reasons for trust;
* `decision_of_names`, `decision_of_hasKeyFor`, `decision_of_unlisted`: the decision of a run, in the
  order in which the reasons are tried.

`runUntil_mono_and_perm` puts this together. With several entries for one key, their order decides which
of them is tried first, so that the signer may be reported with another entry's user id or fingerprint.
-/

namespace CommitGate

namespace Allowlist

variable {a b : Allowlist} {repository : String}

theorem Names.mono {email : String} (more : a.emails ⊆ b.emails) (names : a.Names repository email) :
    b.Names repository email := by
  obtain ⟨e, he, covers⟩ := names
  exact ⟨e, more he, covers⟩

theorem HasKeyFor.mono {now : Nat} {commit : Commit} (more : a.keys ⊆ b.keys)
    (holds : a.HasKeyFor repository now commit) : b.HasKeyFor repository now commit := by
  obtain ⟨e, he, signed⟩ := holds
  exact ⟨e, more he, signed⟩

end Allowlist

/-- The outcomes have the same verdict, the same kind of trust source, and if they are failures the same
description. -/
structure Outcome.SameVerdict (o o' : Outcome) : Prop where
  verdict : o.verdict = o'.verdict
  description : o.passed = false → o.description = o'.description
  kind : o.source.map TrustSource.tag = o'.source.map TrustSource.tag

namespace Gate

variable {g : Gate} {commit : Commit} {a b : Allowlist}

/-! ## The decision by the reasons that hold -/

theorem decision_of_names (cancelled : Awaited Unit)
    (names : a.Names g.repository commit.committer.email) :
    (checkEmail g cancelled commit (a.resolve g.repository)).decision =
      some (.ok (.emailAddress commit.committer.email), 0) := by
  rw [decision_checkEmail, if_pos (isAllowed_resolve_iff.2 names)]

theorem decision_of_hasKeyFor (cancelled : Awaited Unit)
    (unnamed : ¬ a.Names g.repository commit.committer.email)
    (holds : a.HasKeyFor g.repository g.now commit) :
    ∃ signer, (checkEmail g cancelled commit (a.resolve g.repository)).decision =
      some (.ok (.thirdPartyKey signer), 0) := by
  obtain ⟨signer, first⟩ := exists_firstSigner_iff.2 holds
  refine ⟨signer, ?_⟩
  rw [decision_checkEmail, if_neg (mt isAllowed_resolve_iff.1 unnamed),
    listedSigner?_resolve_eq_some_iff.2 first]
  rfl

theorem decision_of_unlisted (cancelled : Awaited Unit)
    (unnamed : ¬ a.Names g.repository commit.committer.email)
    (keyless : ¬ a.HasKeyFor g.repository g.now commit) :
    (checkEmail g cancelled commit (a.resolve g.repository)).decision =
      (readSignature g cancelled commit).decision := by
  rw [decision_checkEmail, if_neg (mt isAllowed_resolve_iff.1 unnamed),
    listedSigner?_resolve_eq_none_iff.2 keyless]
  rfl

/-! ## Runs -/

/-- An outcome that passes reports a trust source. -/
theorem exists_source_of_passed {allowed : Applied} {d : Decision}
    (passes : (report g commit allowed d).passed = true) : ∃ source, d = .ok source := by
  cases d with
  | ok source => exact ⟨source, rfl⟩
  | error fault => cases passes

/-- What a decision comes to does not depend on the faults that are reported with it. -/
theorem sameVerdict_report (allowed allowed' : Applied) (d : Decision) :
    (report g commit allowed d).SameVerdict (report g commit allowed' d) := by
  cases d <;> exact ⟨rfl, fun _ => rfl, rfl⟩

/-- What passes with an allowlist passes with more entries in it. -/
theorem passes_of_subset {cancelled : Awaited Unit} {o : Outcome} (emails : a.emails ⊆ b.emails)
    (keys : a.keys ⊆ b.keys)
    (ends : (g.runUntil cancelled commit (a.resolve g.repository)).outcome = some o)
    (passes : o.passed = true) :
    ∃ o', (g.runUntil cancelled commit (b.resolve g.repository)).outcome = some o' ∧
      o'.passed = true := by
  rw [outcome_runUntil] at ends
  rw [outcome_runUntil]
  by_cases names : b.Names g.repository commit.committer.email
  · rw [decision_of_names cancelled names]
    exact ⟨_, rfl, rfl⟩
  by_cases holds : b.HasKeyFor g.repository g.now commit
  · obtain ⟨signer, hd⟩ := decision_of_hasKeyFor cancelled names holds
    rw [hd]
    exact ⟨_, rfl, rfl⟩
  -- nothing of the larger allowlist helps, and so nothing of the smaller one does
  rw [decision_of_unlisted cancelled (fun h => names (h.mono emails)) fun h => holds (h.mono keys)]
    at ends
  obtain ⟨⟨d, polls⟩, hd, rfl⟩ := Option.map_eq_some_iff.1 ends
  obtain ⟨source, rfl⟩ := exists_source_of_passed passes
  rw [decision_of_unlisted cancelled names holds, hd]
  exact ⟨_, rfl, rfl⟩

/-- With the same entries in any order, runs end alike. -/
theorem sameVerdict_of_perm {cancelled : Awaited Unit} (emails : a.emails.Perm b.emails)
    (keys : a.keys.Perm b.keys) :
    Option.Rel Outcome.SameVerdict
      (g.runUntil cancelled commit (a.resolve g.repository)).outcome
      (g.runUntil cancelled commit (b.resolve g.repository)).outcome := by
  rw [outcome_runUntil, outcome_runUntil]
  by_cases names : a.Names g.repository commit.committer.email
  · have names' : b.Names g.repository commit.committer.email := names.mono emails.subset
    rw [decision_of_names cancelled names, decision_of_names cancelled names']
    exact .some (sameVerdict_report _ _ _)
  have unnamed : ¬ b.Names g.repository commit.committer.email :=
    fun h => names (h.mono emails.symm.subset)
  by_cases holds : a.HasKeyFor g.repository g.now commit
  · -- the signers may be two, but both are of third parties
    obtain ⟨signer, hd⟩ := decision_of_hasKeyFor cancelled names holds
    obtain ⟨signer', hd'⟩ := decision_of_hasKeyFor cancelled unnamed (holds.mono keys.subset)
    rw [hd, hd']
    exact .some ⟨rfl, fun failed => (nomatch failed), rfl⟩
  have keyless : ¬ b.HasKeyFor g.repository g.now commit := fun h => holds (h.mono keys.symm.subset)
  rw [decision_of_unlisted cancelled names holds, decision_of_unlisted cancelled unnamed keyless]
  cases (readSignature g cancelled commit).decision with
  | none => exact .none
  | some verdict => exact .some (sameVerdict_report _ _ _)

/-- A commit that passes with an allowlist passes with every one that has further entries anywhere in its
lists; and any order of the same entries leads to the same verdict, the same text of a FAIL and the same
kind of trust source. This holds for every authority, with or without a cancellation. -/
theorem runUntil_mono_and_perm (g : Gate) (cancelled : Awaited Unit) (commit : Commit)
    (a b : Allowlist) :
    (a.emails.Sublist b.emails → a.keys.Sublist b.keys →
      ∀ o, (g.runUntil cancelled commit (a.resolve g.repository)).outcome = some o →
        o.passed = true →
        ∃ o', (g.runUntil cancelled commit (b.resolve g.repository)).outcome = some o' ∧
          o'.passed = true) ∧
    (a.emails.Perm b.emails → a.keys.Perm b.keys →
      Option.Rel Outcome.SameVerdict
        (g.runUntil cancelled commit (a.resolve g.repository)).outcome
        (g.runUntil cancelled commit (b.resolve g.repository)).outcome) := by
  constructor
  · intro emails keys o ends passes
    exact passes_of_subset emails.subset keys.subset ends passes
  · intro emails keys
    exact sameVerdict_of_perm emails keys

/-- A commit of the committer who is listed last passes also with more entries around, and with the
entries the other way round. -/
theorem runUntil_mono_and_perm_listed_committer :
    let g : Gate := ⟨"example/library", fun _ _ => .ready (.ok .blank), 0⟩
    let dev : Person := ⟨"Dev", "dev@example.com", ⟨0, 0, 0⟩⟩
    let commit : Commit := ⟨"", "", [], dev, dev, "Start", none, []⟩
    let a : Allowlist := ⟨[⟨"ops@example.com", .all⟩, ⟨"dev@example.com", .all⟩], []⟩
    let more : Allowlist := ⟨[⟨"ops@example.com", .all⟩, ⟨"dev", .all⟩, ⟨"dev@example.com", .all⟩],
      [⟨"no key", .all⟩]⟩
    let turned : Allowlist := ⟨[⟨"dev@example.com", .all⟩, ⟨"ops@example.com", .all⟩], []⟩
    (∃ o, (g.runUntil .never commit (more.resolve g.repository)).outcome = some o ∧
      o.passed = true) ∧
    Option.Rel Outcome.SameVerdict (g.runUntil .never commit (a.resolve g.repository)).outcome
      (g.runUntil .never commit (turned.resolve g.repository)).outcome := by
  intro g dev commit a more turned
  have names : a.Names g.repository commit.committer.email :=
    ⟨⟨"dev@example.com", .all⟩, by simp [a], .inl rfl, rfl, rfl⟩
  have ends : (g.runUntil .never commit (a.resolve g.repository)).outcome =
      some (report g commit (a.resolve g.repository) (.ok (.emailAddress "dev@example.com"))) := by
    rw [outcome_runUntil, decision_of_names .never names]
    rfl
  have further : a.emails.Sublist more.emails := .cons_cons _ (.cons _ (.cons_cons _ .slnil))
  have swapped : a.emails.Perm turned.emails := .swap _ _ _
  exact ⟨(runUntil_mono_and_perm g .never commit a more).1 further (.cons _ .slnil) _ ends rfl,
    (runUntil_mono_and_perm g .never commit a turned).2 swapped .nil⟩

end Gate

end CommitGate

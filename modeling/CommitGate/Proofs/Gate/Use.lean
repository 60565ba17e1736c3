import CommitGate.Proofs.Gate.Cancellation

/-! # What a run uses of an allowlist

A run looks at the entries of an allowlist in its first two stages, and takes three things from them
(`Gate.SameUse`): whether an address matches the committer's, how many keys there are, and who is found
to have made the signature. The faults of unusable entries go into the outcome and nowhere else.

* `decision_checkEmail`: the decision of a run, told by the first and the last of the three;
* `alike_checkEmail`: runs with the same use differ only in the keys that are noted to have failed;
* `report_eq_warned`: the faults stand in front of the errors of an outcome that reports none.
-/

namespace CommitGate

/-- The outcome with more lines in front of its errors. -/
def Outcome.warned (lines : List String) (o : Outcome) : Outcome := { o with errors := lines ++ o.errors }

namespace Gate

/-! ## Courses that differ in failed keys only -/

/-- Events, calls and decision are the same. Keys that have failed are none of these. -/
structure Course.Alike (c c' : Course) : Prop where
  events : eventsOf c.marks = eventsOf c'.marks
  calls : callsOf c.marks = callsOf c'.marks
  decision : c.decision = c'.decision

theorem Course.Alike.refl (c : Course) : c.Alike c := ⟨rfl, rfl, rfl⟩

/-- Marks that tell the same and call the same keep courses alike. -/
theorem Course.Alike.behind {c c' : Course} {marks marks' : List Mark} (alike : c.Alike c')
    (events : eventsOf marks = eventsOf marks') (calls : callsOf marks = callsOf marks') :
    (c.behind marks).Alike (c'.behind marks') where
  events := by
    rw [Course.behind, Course.behind, eventsOf_append, eventsOf_append, events, alike.events]
  calls := by
    rw [Course.behind, Course.behind, callsOf_append, callsOf_append, calls, alike.calls]
  decision := alike.decision

/-! ## The two stages that look at entries -/

section

variable (g : Gate) (cancelled : Awaited Unit) (commit : Commit)

/-- How a run goes on once the keys have been tried. -/
def afterKeys : Option Signer → Course
  | some signer => .decided (.ok (.thirdPartyKey signer))
  | none => readSignature g cancelled commit

/-- Two applied allowlists from which a run takes the same. -/
structure SameUse (allowed allowed' : Applied) : Prop where
  email : Email.isAllowed commit.committer.email allowed.emails =
    Email.isAllowed commit.committer.email allowed'.emails
  count : allowed.keys.length = allowed'.keys.length
  signer : listedSigner? g commit allowed = listedSigner? g commit allowed'

end

variable {g : Gate} {cancelled : Awaited Unit} {commit : Commit} {allowed allowed' : Applied}

/-- Trying the keys notes those that have failed, and tells who has been found. -/
theorem exists_checkKeys_eq (g : Gate) (cancelled : Awaited Unit) (commit : Commit)
    (allowed : Applied) :
    ∃ failures, checkKeys g cancelled commit allowed =
      (afterKeys g cancelled commit (listedSigner? g commit allowed)).behind
        (.event (.entered .checkThirdPartyKeys) :: (failureMarks failures ++
          [.event (.keysChecked allowed.keys.length
            ((listedSigner? g commit allowed).map Signer.keyId) commit.isSigned)])) := by
  have signed := isSigned_eq_check g.now commit allowed.keys
  unfold checkKeys listedSigner?
  rcases hc : ThirdParty.check g.now commit.payload commit.signatureBytes allowed.keys
    with ⟨check, failures⟩
  rw [hc] at signed
  refine ⟨failures, ?_⟩
  -- whoever is found, the check tells it to the event and to the rest of the run alike
  cases check <;>
    simp [Course.telling, Course.behind, failureMarks, afterKeys, ThirdParty.Check.signer?,
      verifiedKeyId?, signed]

/-- The decision of a run: an address that matches, else a signer that is found, else the signature. -/
theorem decision_checkEmail (g : Gate) (cancelled : Awaited Unit) (commit : Commit)
    (allowed : Applied) :
    (checkEmail g cancelled commit allowed).decision =
      if Email.isAllowed commit.committer.email allowed.emails then
        some (.ok (.emailAddress commit.committer.email), 0)
      else (afterKeys g cancelled commit (listedSigner? g commit allowed)).decision := by
  obtain ⟨failures, hk⟩ := exists_checkKeys_eq g cancelled commit allowed
  have keys : (checkKeys g cancelled commit allowed).decision =
      (afterKeys g cancelled commit (listedSigner? g commit allowed)).decision := by
    rw [hk]
    rfl
  simp only [checkEmail]
  cases Email.isAllowed commit.committer.email allowed.emails with
  | true => rfl
  | false => exact keys

/-- With the same use of two allowlists, the courses of a run are alike. -/
theorem alike_checkEmail (cancelled : Awaited Unit) (same : SameUse g commit allowed allowed') :
    (checkEmail g cancelled commit allowed).Alike (checkEmail g cancelled commit allowed') := by
  simp only [checkEmail, telling_eq_behind, same.email]
  refine Course.Alike.behind ?_ rfl rfl
  cases Email.isAllowed commit.committer.email allowed'.emails with
  | true => exact .refl _
  | false =>
    obtain ⟨failures, hk⟩ := exists_checkKeys_eq g cancelled commit allowed
    obtain ⟨failures', hk'⟩ := exists_checkKeys_eq g cancelled commit allowed'
    have events : ∀ failures : List (Nat × Keyring.Fault), ∀ e,
        eventsOf (.event (.entered .checkThirdPartyKeys) :: (failureMarks failures ++ [.event e])) =
          [.entered .checkThirdPartyKeys, e] := by
      intro failures e
      rw [← List.singleton_append, eventsOf_append, eventsOf_append, eventsOf_failureMarks]
      rfl
    have calls : ∀ failures : List (Nat × Keyring.Fault), ∀ e,
        callsOf (.event (.entered .checkThirdPartyKeys) :: (failureMarks failures ++ [.event e])) =
          [] := by
      intro failures e
      simp
    show (checkKeys g cancelled commit allowed).Alike (checkKeys g cancelled commit allowed')
    rw [hk, hk', same.count, same.signer]
    refine Course.Alike.behind (.refl _) ?_ ?_
    · rw [events, events]
    · rw [calls, calls]

/-! ## Outcomes -/

/-- The faults of unusable entries stand in front of what a report without any has. -/
theorem report_eq_warned (g : Gate) (commit : Commit) (allowed : Applied) (d : Decision) :
    report g commit allowed d =
      (report g commit .none d).warned (allowed.faults.map Fault.message) := by
  cases d with
  | ok source => simp [report, Outcome.pass, Outcome.warned, Applied.faults, Applied.none]
  | error fault => simp [report, Outcome.fail, Outcome.warned, Applied.faults, Applied.none]

/-- The outcome of a run reports the decision of its course, if there is one. -/
theorem outcome_runUntil (g : Gate) (cancelled : Awaited Unit) (commit : Commit) (allowed : Applied) :
    (g.runUntil cancelled commit allowed).outcome =
      (checkEmail g cancelled commit allowed).decision.map fun v => report g commit allowed v.1 := by
  cases hd : (checkEmail g cancelled commit allowed).decision with
  | none => rw [runUntil_of_endless hd]; rfl
  | some verdict => rw [runUntil_of_decided hd]; rfl

/-- The events of a run are those of its course, and one that finishes it if it ends. -/
theorem events_runUntil (g : Gate) (cancelled : Awaited Unit) (commit : Commit) (allowed : Applied) :
    (g.runUntil cancelled commit allowed).events =
      eventsOf (checkEmail g cancelled commit allowed).marks ++
        ((checkEmail g cancelled commit allowed).decision.map fun v =>
          (report g commit .none v.1).closing).toList := by
  cases hd : (checkEmail g cancelled commit allowed).decision with
  | none =>
    rw [runUntil_of_endless hd]
    exact (List.append_nil _).symm
  | some verdict =>
    rw [runUntil_of_decided hd, report_eq_warned]
    exact eventsOf_append _ _

theorem polls_runUntil (g : Gate) (cancelled : Awaited Unit) (commit : Commit) (allowed : Applied) :
    (g.runUntil cancelled commit allowed).polls =
      (checkEmail g cancelled commit allowed).decision.map Prod.snd := by
  cases hd : (checkEmail g cancelled commit allowed).decision with
  | none => rw [runUntil_of_endless hd]; rfl
  | some verdict => rw [runUntil_of_decided hd]; rfl

end Gate

end CommitGate

import CommitGate.Proofs.Gate.Calls

/-! # What a cancellation can change

Only the wait for the authority depends on the cancellation of a run:

* `Gate.Confined` says so of a course, taken as a function of the cancellation; putting marks in front
  keeps it (`Confined.behind`), and the course of a run has it (`confined_checkEmail`);
* `authorize_of_cancels`: a cancellation that comes no later than the answer ends the wait with a fault;
* `authorize_of_not_cancels`: any other is as good as none.

`runUntil_confined` puts this together for whole runs (`Gate.Interruption`).

Scope limit: as in `Awaited`, the cancellation and the answer are polled equally often.
-/

namespace CommitGate

/-- The mark can stand before the authority is asked. -/
def Mark.isEarly : Mark → Bool
  | .event (.entered s) => s ≠ .authorize && s ≠ .verifySignature
  | .event (.asking _ _) | .event (.answered _ _) | .event (.finished _ _) | .called _ _ => false
  | _ => true

namespace Gate

/-- Put marks in front of a course. -/
def Course.behind (marks : List Mark) (c : Course) : Course := { c with marks := marks ++ c.marks }

section

variable (g : Gate) (commit : Commit) (allowed : Applied)

/-- The run comes to the wait for the authority, with the envelope of the commit's signature. -/
structure Waits (envelope : Envelope) : Prop where
  unlisted : Unlisted g commit allowed
  reads : Reads commit envelope

/-- The course depends on the cancellation in the wait for the authority only: it does not come to this
wait and is decided without a poll, or the wait follows some marks. -/
def Confined (course : Awaited Unit → Course) : Prop :=
  (∃ marks d, marks.all Mark.isEarly = true ∧ (∀ envelope, ¬ Waits g commit allowed envelope) ∧
    ∀ cancelled, course cancelled = ⟨marks, some (d, 0)⟩) ∨
  ∃ lead envelope, lead.all Mark.isEarly = true ∧ Waits g commit allowed envelope ∧
    ∀ cancelled, course cancelled = (authorize g cancelled commit envelope).behind lead

end

variable {g : Gate} {cancelled : Awaited Unit} {commit : Commit} {allowed : Applied}

/-! ## The course of a run -/

/-- Marks from before the wait keep the dependence where it is. -/
theorem Confined.behind {course : Awaited Unit → Course} (h : Confined g commit allowed course)
    {marks : List Mark} (early : marks.all Mark.isEarly = true) :
    Confined g commit allowed fun cancelled => (course cancelled).behind marks := by
  rcases h with ⟨after, d, early', away, same⟩ | ⟨lead, envelope, early', waits, same⟩
  · refine .inl ⟨marks ++ after, d, ?_, away, fun cancelled => ?_⟩
    · rw [List.all_append, early, early', Bool.and_self]
    · exact congrArg (Course.behind marks) (same cancelled)
  · refine .inr ⟨marks ++ lead, envelope, ?_, waits, fun cancelled => ?_⟩
    · rw [List.all_append, early, early', Bool.and_self]
    · refine (congrArg (Course.behind marks) (same cancelled)).trans ?_
      simp [Course.behind]

/-- Telling events is putting them in front. -/
theorem telling_eq_behind (events : List Event) (c : Course) :
    Course.telling events c = c.behind (events.map .event) := rfl

theorem confined_decided (d : Decision) (away : ∀ envelope, ¬ Waits g commit allowed envelope) :
    Confined g commit allowed fun _ => .decided d :=
  .inl ⟨[], d, rfl, away, fun _ => rfl⟩

/-- Without an address or a key in the allowlist, the signature alone decides whether there is a wait. -/
theorem confined_readSignature (hu : Unlisted g commit allowed) :
    Confined g commit allowed fun cancelled => readSignature g cancelled commit := by
  unfold readSignature
  simp only [telling_eq_behind]
  refine Confined.behind ?_ rfl
  cases hs : commit.signatureBytes with
  | none =>
    refine confined_decided _ ?_
    rintro envelope ⟨-, signature, hs', -⟩
    cases hs.symm.trans hs'
  | some signature =>
    refine Confined.behind ?_ rfl
    cases he : Envelope.parse signature with
    | error fault =>
      refine confined_decided _ ?_
      rintro envelope ⟨-, signature', hs', he'⟩
      obtain rfl := Option.some.inj (hs.symm.trans hs')
      cases he.symm.trans he'
    | ok envelope => exact .inr ⟨[], envelope, rfl, ⟨hu, signature, hs, he⟩, fun _ => rfl⟩

theorem confined_checkKeys (hm : Email.isAllowed commit.committer.email allowed.emails = false) :
    Confined g commit allowed fun cancelled => checkKeys g cancelled commit allowed := by
  have failed (failures : List (Nat × Keyring.Fault)) :
      (failureMarks failures).all Mark.isEarly = true := by
    simp [failureMarks, Mark.isEarly]
  unfold checkKeys
  rcases hc : ThirdParty.check g.now commit.payload commit.signatureBytes allowed.keys
    with ⟨check, failures⟩
  simp only [telling_eq_behind]
  refine Confined.behind (Confined.behind (Confined.behind ?_ rfl) (failed failures)) rfl
  cases check with
  | verified i signer =>
    refine confined_decided _ fun envelope waits => ?_
    have found := waits.unlisted.key
    simp [listedSigner?, hc, ThirdParty.Check.signer?] at found
  | noMatch | unsigned =>
    exact confined_readSignature ⟨hm, by simp [listedSigner?, hc, ThirdParty.Check.signer?]⟩

/-- The course of a run depends on the cancellation in the wait for the authority only. -/
theorem confined_checkEmail (g : Gate) (commit : Commit) (allowed : Applied) :
    Confined g commit allowed fun cancelled => checkEmail g cancelled commit allowed := by
  unfold checkEmail
  simp only [telling_eq_behind]
  refine Confined.behind ?_ rfl
  cases hm : Email.isAllowed commit.committer.email allowed.emails with
  | true =>
    refine confined_decided _ fun envelope waits => ?_
    cases hm.symm.trans waits.unlisted.email
  | false => exact confined_checkKeys hm

/-! ## The wait -/

theorem isReady_eq_decide_of_arrival {polls : Nat} {u : Unit}
    (h : cancelled.arrival? = some (polls, u)) : cancelled.isReady = decide (polls = 0) := by
  rw [Bool.eq_iff_iff, Awaited.isReady_iff, decide_eq_true_iff, h]
  simp

/-- A cancellation that comes no later than the answer ends the wait with a fault. -/
theorem authorize_of_cancels {envelope : Envelope} {polls : Nat}
    (h : Cancels g cancelled commit envelope polls) :
    authorize g cancelled commit envelope =
      ⟨.event (.entered .authorize) :: askedMarks cancelled commit envelope,
        some (.error cancelledFault, polls + 1)⟩ := by
  have wins : cancelled.race (g.authority envelope.issuerKeyId commit.committer.email) =
      .first () (polls + 1) := Awaited.race_eq_first_iff.2 ⟨polls, rfl, h.1, h.2⟩
  simp [authorize, wins, askedMarks, Course.telling]

/-- A cancellation that comes later than the answer, or never, is as good as none. -/
theorem authorize_of_not_cancels {envelope : Envelope}
    (h : ∀ polls, ¬ Cancels g cancelled commit envelope polls) :
    authorize g cancelled commit envelope = authorize g .never commit envelope := by
  have late : ∀ u polls, cancelled.race (g.authority envelope.issuerKeyId commit.committer.email) ≠
      .first u polls := by
    intro u polls wins
    obtain ⟨m, -, hc, hle⟩ := Awaited.race_eq_first_iff.1 wins
    exact h m ⟨hc, hle⟩
  have same : cancelled.race (g.authority envelope.issuerKeyId commit.committer.email) =
      Awaited.race .never (g.authority envelope.issuerKeyId commit.committer.email) := by
    cases hr : cancelled.race (g.authority envelope.issuerKeyId commit.committer.email) with
    | first u polls => exact absurd hr (late u polls)
    | second answer polls =>
      obtain ⟨n, rfl, hn, -⟩ := Awaited.race_eq_second_iff.1 hr
      exact (Awaited.race_eq_second_iff.2 ⟨n, rfl, hn, fun _ _ h => by cases h⟩).symm
    | endless =>
      obtain ⟨-, hn⟩ := Awaited.race_eq_endless_iff.1 hr
      exact (Awaited.race_eq_endless_iff.2 ⟨rfl, hn⟩).symm
  have unready : cancelled.isReady = false := by
    cases hc : cancelled.isReady with
    | false => rfl
    | true =>
      obtain ⟨u, hu⟩ := Awaited.isReady_iff.1 hc
      exact absurd ⟨hu, fun _ _ _ => Nat.zero_le _⟩ (h 0)
  have never : (Awaited.never : Awaited Unit).isReady = false := rfl
  simp only [authorize, same, unready, never]

/-- A wait with a cancellation that comes ends, and does not poll it again once it is there. -/
theorem authorize_polls (g : Gate) (commit : Commit) (envelope : Envelope) {polls : Nat}
    (h : cancelled.arrival? = some (polls, ())) :
    ∃ d n, n ≤ polls + 1 ∧ (authorize g cancelled commit envelope).decision = some (d, n) := by
  cases hr : cancelled.race (g.authority envelope.issuerKeyId commit.committer.email) with
  | first u n =>
    obtain ⟨m, rfl, hm, -⟩ := Awaited.race_eq_first_iff.1 hr
    cases h.symm.trans hm
    exact ⟨.error cancelledFault, _, Nat.le_refl _, by simp [authorize, hr, Course.telling]⟩
  | second answer n =>
    obtain ⟨m, rfl, -, absent⟩ := Awaited.race_eq_second_iff.1 hr
    have := absent polls () h
    exact ⟨(judge g.now commit envelope answer).2, m + 1, by omega,
      by simp [authorize, hr, Course.telling]⟩
  | endless =>
    obtain ⟨hc, -⟩ := Awaited.race_eq_endless_iff.1 hr
    cases h.symm.trans hc

/-! ## Runs -/

/-- A run is what its course makes of it. -/
theorem runUntil_congr {cancelled' : Awaited Unit}
    (h : checkEmail g cancelled commit allowed = checkEmail g cancelled' commit allowed) :
    g.runUntil cancelled commit allowed = g.runUntil cancelled' commit allowed := by
  simp only [runUntil, h]

theorem mem_events_iff {r : Run} {e : Event} : e ∈ r.events ↔ .event e ∈ r.marks := by
  constructor
  · intro he
    obtain ⟨mark, hm, heq⟩ := List.mem_filterMap.1 he
    cases mark with
    | event e' => rwa [← Option.some.inj heq]
    | _ => cases heq
  · intro hm
    exact List.mem_filterMap.2 ⟨_, hm, rfl⟩

theorem callsOf_of_early {marks : List Mark} (early : marks.all Mark.isEarly = true) :
    callsOf marks = [] := by
  refine List.filterMap_eq_nil_iff.2 fun mark hm => ?_
  have := List.all_eq_true.1 early mark hm
  cases mark with
  | called keyId email => cases this
  | _ => rfl

/-- A signature is read as one envelope at most. -/
theorem Waits.unique {envelope envelope' : Envelope} (h : Waits g commit allowed envelope)
    (h' : Waits g commit allowed envelope') : envelope = envelope' := by
  obtain ⟨signature, hs, he⟩ := h.reads
  obtain ⟨signature', hs', he'⟩ := h'.reads
  obtain rfl := Option.some.inj (hs.symm.trans hs')
  exact Except.ok.inj (he.symm.trans he')

/-- A run that does not come to the wait is decided without a poll, the same for every cancellation. -/
theorem course_of_not_waits (away : ∀ envelope, ¬ Waits g commit allowed envelope) :
    ∃ marks d, marks.all Mark.isEarly = true ∧
      ∀ cancelled, checkEmail g cancelled commit allowed = ⟨marks, some (d, 0)⟩ := by
  rcases confined_checkEmail g commit allowed with ⟨marks, d, early, -, same⟩ | ⟨_, _, -, waits, -⟩
  · exact ⟨marks, d, early, same⟩
  · exact absurd waits (away _)

/-- A run that comes to the wait goes through the same marks before it for every cancellation. -/
theorem course_of_waits {envelope : Envelope} (waits : Waits g commit allowed envelope) :
    ∃ lead, lead.all Mark.isEarly = true ∧ ∀ cancelled, checkEmail g cancelled commit allowed =
      (authorize g cancelled commit envelope).behind lead := by
  rcases confined_checkEmail g commit allowed with ⟨_, _, -, away, -⟩ | ⟨lead, _, early, waits', same⟩
  · exact absurd waits (away _)
  · obtain rfl := waits.unique waits'
    exact ⟨lead, early, same⟩

/-- A run tells that it has come to the wait exactly if it has. -/
theorem entered_authorize_iff :
    .entered .authorize ∈ (g.runUntil cancelled commit allowed).events ↔
      ∃ envelope, Waits g commit allowed envelope := by
  constructor
  · intro entered
    have marked := entered_of_mem_events entered
    refine Classical.by_contradiction fun away => ?_
    obtain ⟨marks, d, early, same⟩ := course_of_not_waits (not_exists.1 away)
    rw [same] at marked
    cases List.all_eq_true.1 early _ marked
  · rintro ⟨envelope, waits⟩
    obtain ⟨lead, -, same⟩ := course_of_waits waits
    have marked : .event (.entered .authorize) ∈ (checkEmail g cancelled commit allowed).marks := by
      rw [same]
      simp [authorize, Course.behind, Course.telling]
    rw [mem_events_iff]
    cases hd : (checkEmail g cancelled commit allowed).decision with
    | none => rwa [runUntil_of_endless hd]
    | some verdict =>
      rw [runUntil_of_decided hd]
      exact List.mem_append_left _ marked

/-! ## Runs with a cancellation beside runs without one -/

/-- The run has failed because the cancellation came after `polls` polls that found nothing. -/
structure CutShort (g : Gate) (commit : Commit) (allowed : Applied) (envelope : Envelope) (polls : Nat)
    (r : Run) : Prop where
  outcome : r.outcome = some (.fail g.repository (some commit) allowed.faults
    (.transport "authorization request cancelled"))
  lastError : ∀ o, r.outcome = some o →
    o.errors.getLast? = some "failed to get authorization: authorization request cancelled"
  unanswered : ∀ keyId authorized, .answered keyId authorized ∉ r.events
  unverified : .entered .verifySignature ∉ r.events
  /-- The authority is not called if the cancellation is there at the first poll. -/
  calls : r.calls = if polls = 0 then [] else [(envelope.issuerKeyId, commit.committer.email)]
  polled : r.polls = some (polls + 1)

theorem cutShort_of_cancels {envelope : Envelope} {polls : Nat} (waits : Waits g commit allowed envelope)
    (h : Cancels g cancelled commit envelope polls) :
    CutShort g commit allowed envelope polls (g.runUntil cancelled commit allowed) := by
  obtain ⟨lead, early, same⟩ := course_of_waits waits
  have course := same cancelled
  rw [authorize_of_cancels h] at course
  have hd : (checkEmail g cancelled commit allowed).decision = some (.error cancelledFault, polls + 1) :=
    congrArg Course.decision course
  have ends := runUntil_of_decided hd
  -- the events that a stage after the wait tells are neither early nor told by asking
  have untold : ∀ e, Mark.isEarly (.event e) = false → e ≠ .entered .authorize →
      (∀ keyId email, e ≠ .asking keyId email) → (∀ passed text, e ≠ .finished passed text) →
      e ∉ (g.runUntil cancelled commit allowed).events := by
    intro e late unentered unasked unfinished he
    rw [mem_events_iff, ends, course] at he
    simp only [Course.behind, askedMarks, List.mem_append, List.mem_cons, List.not_mem_nil, or_false,
      Mark.event.injEq, unentered, unasked, unfinished, false_or] at he
    rcases he with he | he
    · cases late.symm.trans (List.all_eq_true.1 early _ he)
    · split at he <;> simp at he
  exact {
    outcome := by rw [ends]; rfl
    lastError := by
      intro o ho
      rw [ends] at ho
      cases ho
      exact List.getLast?_concat
    unanswered := fun keyId authorized => untold _ rfl (by simp) (by simp) (by simp)
    unverified := untold _ rfl (by simp) (by simp) (by simp)
    calls := by
      rw [calls_runUntil, course]
      simp only [Course.behind, callsOf_append, callsOf_of_early early, callsOf_event,
        callsOf_askedMarks, isReady_eq_decide_of_arrival h.1, decide_eq_true_iff, List.nil_append]
    polled := by rw [ends] }

/-- How a run with a cancellation stands to the run without one. -/
structure Interruption (g : Gate) (cancelled : Awaited Unit) (commit : Commit) (allowed : Applied) :
    Prop where
  /-- Whether a run comes to the wait for the authority does not depend on the cancellation. -/
  entered : .entered .authorize ∈ (g.runUntil cancelled commit allowed).events ↔
    .entered .authorize ∈ (g.run commit allowed).events
  /-- If it does, this is with the envelope of the commit's signature. -/
  waits : .entered .authorize ∈ (g.run commit allowed).events ↔
    ∃ envelope, Waits g commit allowed envelope
  /-- A run that is decided before is the same, and never polls the cancellation. -/
  before : .entered .authorize ∉ (g.run commit allowed).events →
    g.runUntil cancelled commit allowed = g.run commit allowed ∧
      (g.runUntil cancelled commit allowed).polls = some 0
  /-- A cancellation that comes no later than the answer ends the run. -/
  cut : ∀ envelope polls, Waits g commit allowed envelope →
    Cancels g cancelled commit envelope polls →
    CutShort g commit allowed envelope polls (g.runUntil cancelled commit allowed)
  /-- Any other changes nothing. -/
  kept : ∀ envelope, Waits g commit allowed envelope →
    (∀ polls, ¬ Cancels g cancelled commit envelope polls) →
    g.runUntil cancelled commit allowed = g.run commit allowed
  /-- What passes would have passed without the cancellation. -/
  passes : ∀ o, (g.runUntil cancelled commit allowed).outcome = some o → o.passed = true →
    (g.run commit allowed).outcome = some o
  /-- A cancellation that comes is polled until it is there, and not again. -/
  polled : ∀ polls, cancelled.arrival? = some (polls, ()) →
    ∃ n ≤ polls + 1, (g.runUntil cancelled commit allowed).polls = some n

/-- A run that does not come to the wait is the same for every cancellation, and polls none. -/
theorem runUntil_of_not_waits (away : ∀ envelope, ¬ Waits g commit allowed envelope) :
    g.runUntil cancelled commit allowed = g.run commit allowed ∧
      (g.runUntil cancelled commit allowed).polls = some 0 := by
  obtain ⟨marks, d, -, same⟩ := course_of_not_waits away
  refine ⟨runUntil_congr ((same cancelled).trans (same .never).symm), ?_⟩
  rw [runUntil_of_decided (congrArg Course.decision (same cancelled))]

/-- A run that comes to the wait and is not cancelled in it is the one without a cancellation. -/
theorem runUntil_of_not_cancels {envelope : Envelope} (waits : Waits g commit allowed envelope)
    (late : ∀ polls, ¬ Cancels g cancelled commit envelope polls) :
    g.runUntil cancelled commit allowed = g.run commit allowed := by
  obtain ⟨lead, -, same⟩ := course_of_waits waits
  refine runUntil_congr ?_
  rw [same, same, authorize_of_not_cancels late]

theorem runUntil_polls {polls : Nat} (h : cancelled.arrival? = some (polls, ())) :
    ∃ n ≤ polls + 1, (g.runUntil cancelled commit allowed).polls = some n := by
  by_cases waits : ∃ envelope, Waits g commit allowed envelope
  · obtain ⟨envelope, waits⟩ := waits
    obtain ⟨lead, -, same⟩ := course_of_waits waits
    obtain ⟨d, n, hn, hd⟩ := authorize_polls g commit envelope h
    refine ⟨n, hn, ?_⟩
    rw [runUntil_of_decided ((congrArg Course.decision (same cancelled)).trans hd)]
  · exact ⟨0, Nat.zero_le _, (runUntil_of_not_waits (not_exists.1 waits)).2⟩

/-- A cancellation can change a run in the wait for the authority only: a run that is decided before is
the same, and so is one whose answer comes first; a cancellation that comes no later than the answer
makes the run fail. So nothing passes because of a cancellation, and none is polled once it is there. -/
theorem runUntil_confined (g : Gate) (cancelled : Awaited Unit) (commit : Commit) (allowed : Applied) :
    Interruption g cancelled commit allowed where
  entered := entered_authorize_iff.trans entered_authorize_iff.symm
  waits := entered_authorize_iff
  before := by
    intro untold
    exact runUntil_of_not_waits fun envelope waits => untold (entered_authorize_iff.2 ⟨envelope, waits⟩)
  cut := fun _ _ waits h => cutShort_of_cancels waits h
  kept := fun _ waits late => runUntil_of_not_cancels waits late
  passes := by
    intro o ends passed
    by_cases away : ∀ envelope, ¬ Waits g commit allowed envelope
    · rwa [(runUntil_of_not_waits away).1] at ends
    obtain ⟨envelope, waits⟩ := Classical.not_forall_not.1 away
    by_cases late : ∀ polls, ¬ Cancels g cancelled commit envelope polls
    · rwa [runUntil_of_not_cancels waits late] at ends
    -- a run that is cut short fails
    obtain ⟨polls, h⟩ := Classical.not_forall_not.1 late
    rw [(cutShort_of_cancels waits h).outcome] at ends
    cases ends
    cases passed
  polled := fun _ h => runUntil_polls h

end Gate

end CommitGate

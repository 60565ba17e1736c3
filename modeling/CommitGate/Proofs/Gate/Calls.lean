import CommitGate.Proofs.Gate.Trace

/-! # When the authority is called

The calls of a run depend on the commit, the allowlist and the first poll of the cancellation, and on
nothing that the authority does:

* `Gate.Asks` is the condition under which the authority is called;
* `Gate.Due` says, at each position, which calls are still to come, and `due_step` that every step makes
  the calls that are due and no others;
* `walk_verifies`: the last stage judges the signature that the key id was read from.

`runUntil_calls` puts this together for whole runs: one call at most, exactly if `Asks` holds.
-/

namespace CommitGate

/-- The calls of the authority among marks. -/
def callsOf (marks : List Mark) : List (String × String) := marks.filterMap Mark.call?

@[simp] theorem callsOf_nil : callsOf [] = [] := rfl

@[simp] theorem callsOf_append (marks marks' : List Mark) :
    callsOf (marks ++ marks') = callsOf marks ++ callsOf marks' :=
  List.filterMap_append

@[simp] theorem callsOf_event (e : Event) (marks : List Mark) :
    callsOf (.event e :: marks) = callsOf marks := rfl

namespace Gate

section

variable (g : Gate) (cancelled : Awaited Unit) (commit : Commit) (allowed : Applied)

/-- Nothing of the allowlist makes the commit trusted, its signature is read as the envelope, and the
cancellation is not there at the first poll. -/
structure Asks (signature : Bytes) (envelope : Envelope) : Prop where
  unlisted : ∀ address ∈ allowed.emails,
    Lowercase.lowercase address.toList ≠ Lowercase.lowercase commit.committer.email.toList
  signed : commit.signatureBytes = some signature
  unverified : ∀ k ∈ allowed.keys, ¬ k.keyring.Verifies g.now commit.payload signature
  readable : Envelope.parse signature = .ok envelope
  uncancelled : cancelled.isReady = false

/-- The calls are the one for the envelope that the conditions give, or none without such an envelope. -/
structure DueFromStart (calls : List (String × String)) : Prop where
  asked : ∀ signature envelope, Asks g cancelled commit allowed signature envelope →
    calls = [(envelope.issuerKeyId, commit.committer.email)]
  unasked : (∀ signature envelope, ¬ Asks g cancelled commit allowed signature envelope) → calls = []

/-- The calls that are still to come at a position. -/
def Due : Position → List (String × String) → Prop
  | .authorize envelope, calls => calls = callsOf (askedMarks cancelled commit envelope)
  | .verifySignature _ _, calls | .decided _, calls => calls = []
  | _, calls => DueFromStart g cancelled commit allowed calls

end

variable {g : Gate} {cancelled : Awaited Unit} {commit : Commit} {allowed : Applied}

/-! ## The condition at the positions before the call -/

@[simp] theorem callsOf_failureMarks (failures : List (Nat × Keyring.Fault)) :
    callsOf (failureMarks failures) = [] := by
  simp [callsOf, failureMarks, Mark.call?]

theorem callsOf_askedMarks (envelope : Envelope) :
    callsOf (askedMarks cancelled commit envelope) =
      if cancelled.isReady then [] else [(envelope.issuerKeyId, commit.committer.email)] := by
  unfold askedMarks
  split <;> rfl

/-- No address matches exactly if none is the same in lower case. -/
theorem isAllowed_eq_false_iff {email : String} {addresses : List String} :
    Email.isAllowed email addresses = false ↔ ∀ address ∈ addresses,
      Lowercase.lowercase address.toList ≠ Lowercase.lowercase email.toList := by
  simp [Email.isAllowed, Email.sameIgnoringCase]

/-- The conditions are those that are known where the authority is asked. -/
theorem asks_iff {signature : Bytes} {envelope : Envelope} :
    Asks g cancelled commit allowed signature envelope ↔
      Unlisted g commit allowed ∧ commit.signatureBytes = some signature ∧
        Envelope.parse signature = .ok envelope ∧ cancelled.isReady = false := by
  constructor
  · rintro ⟨hm, hs, hk, he, hc⟩
    refine ⟨⟨isAllowed_eq_false_iff.2 hm, ThirdParty.check_signer_eq_none_iff.2 ?_⟩, hs, he, hc⟩
    intro signature' hs'
    obtain rfl := Option.some.inj (hs.symm.trans hs')
    exact hk
  · rintro ⟨⟨hm, hk⟩, hs, he, hc⟩
    exact ⟨isAllowed_eq_false_iff.1 hm, hs, ThirdParty.check_signer_eq_none_iff.1 hk signature hs,
      he, hc⟩

/-- A run that is decided before the authority is asked has no call due. -/
theorem dueFromStart_nil
    (h : ∀ signature envelope, ¬ Asks g cancelled commit allowed signature envelope) :
    DueFromStart g cancelled commit allowed [] :=
  ⟨fun _ _ asks => absurd asks (h _ _), fun _ => rfl⟩

/-- Where the signature is read, the calls due from the start are those of asking. -/
theorem dueFromStart_asking {envelope : Envelope} (hu : Unlisted g commit allowed)
    (hr : Reads commit envelope) :
    DueFromStart g cancelled commit allowed (callsOf (askedMarks cancelled commit envelope)) := by
  obtain ⟨signature, hs, he⟩ := hr
  rw [callsOf_askedMarks]
  constructor
  · intro signature' envelope' asks
    obtain ⟨-, hs', he', hc⟩ := asks_iff.1 asks
    obtain rfl := Option.some.inj (hs.symm.trans hs')
    obtain rfl := Except.ok.inj (he.symm.trans he')
    simp [hc]
  · intro none
    cases hc : cancelled.isReady with
    | true => rfl
    | false => exact absurd (asks_iff.2 ⟨hu, hs, he, hc⟩) (none signature envelope)

/-- Calls that are due from the start are one at most. -/
theorem DueFromStart.length_le_one {calls : List (String × String)}
    (due : DueFromStart g cancelled commit allowed calls) : calls.length ≤ 1 := by
  by_cases h : ∃ signature envelope, Asks g cancelled commit allowed signature envelope
  · obtain ⟨signature, envelope, asks⟩ := h
    rw [due.asked signature envelope asks]
    exact Nat.le_refl 1
  · rw [due.unasked fun signature envelope asks => h ⟨signature, envelope, asks⟩]
    exact Nat.zero_le 1

/-- Calls that are due from the start are made exactly if the condition holds. -/
theorem DueFromStart.mem_iff {calls : List (String × String)} {keyId email : String}
    (due : DueFromStart g cancelled commit allowed calls) :
    (keyId, email) ∈ calls ↔
      ∃ signature envelope, Asks g cancelled commit allowed signature envelope ∧
        keyId = envelope.issuerKeyId ∧ email = commit.committer.email := by
  constructor
  · intro hm
    by_cases h : ∃ signature envelope, Asks g cancelled commit allowed signature envelope
    · obtain ⟨signature, envelope, asks⟩ := h
      rw [due.asked signature envelope asks, List.mem_singleton, Prod.mk.injEq] at hm
      exact ⟨signature, envelope, asks, hm.1, hm.2⟩
    · rw [due.unasked fun signature envelope asks => h ⟨signature, envelope, asks⟩] at hm
      cases hm
  · rintro ⟨signature, envelope, asks, rfl, rfl⟩
    rw [due.asked signature envelope asks]
    exact List.mem_singleton_self _

/-! ## Every step makes the calls that are due -/

theorem due_step {p q : Position} {marks : List Mark} {polls : Nat} {rest : List (String × String)}
    (goes : Step g cancelled commit allowed p marks polls q)
    (known : Reached g cancelled commit allowed p) (due : Due g cancelled commit allowed q rest) :
    Due g cancelled commit allowed p (callsOf marks ++ rest) := by
  cases goes with
  -- before the authority is asked, an end means that the condition fails
  | emailAllowed h =>
    obtain rfl : rest = [] := due
    refine dueFromStart_nil fun _ _ asks => ?_
    cases (asks_iff.1 asks).1.email.symm.trans h
  | emailUnknown h => exact due
  | keyFound h =>
    obtain rfl : rest = [] := due
    simp only [callsOf_append, callsOf_failureMarks, callsOf_event, callsOf_nil, List.append_nil]
    refine dueFromStart_nil fun _ _ asks => ?_
    have found := (asks_iff.1 asks).1.key
    simp [listedSigner?, h, ThirdParty.Check.signer?] at found
  | keyUnknown h hn =>
    simp only [callsOf_append, callsOf_failureMarks, callsOf_event, callsOf_nil, List.append_nil]
    exact due
  | unsigned h =>
    obtain rfl : rest = [] := due
    refine dueFromStart_nil fun _ _ asks => ?_
    cases (signatureBytes_eq_none_iff.2 h).symm.trans asks.signed
  | signed h => exact due
  | unreadable hs h =>
    obtain rfl : rest = [] := due
    refine dueFromStart_nil fun _ _ asks => ?_
    obtain rfl := Option.some.inj (hs.symm.trans asks.signed)
    cases h.symm.trans asks.readable
  | readable hs h =>
    obtain rfl : rest = _ := due
    exact dueFromStart_asking known ⟨_, hs, h⟩
  -- the one call is made here, whatever comes of it
  | cancelled h | unanswered h =>
    obtain rfl : rest = [] := due
    simp [Due]
  | denied h ha | authorized h ha =>
    obtain rfl : rest = [] := due
    simp [Due]
  | verified => exact due

/-- A walk makes the calls that are due where it begins. -/
theorem walk_due {steps : Nat} {p : Position} {c : Course}
    (walk : Walk g cancelled commit allowed steps p c)
    (known : Reached g cancelled commit allowed p) :
    Due g cancelled commit allowed p (callsOf c.marks) := by
  induction walk with
  | decided d => rfl
  | onward begins goes rest ih =>
    rw [Course.entering, callsOf_event, callsOf_append]
    exact due_step goes known (ih (reached_step _ _ _ _ goes known))
  | endless never silent => rfl

/-! ## The signature that is judged -/

/-- Only its beginning tells that a stage has been entered, and no step within it. -/
theorem Step.not_entered {p q : Position} {marks : List Mark} {polls : Nat}
    (goes : Step g cancelled commit allowed p marks polls q) (s : Stage) :
    .event (.entered s) ∉ marks := by
  cases goes with
  | cancelled | unanswered | denied | authorized =>
    unfold askedMarks
    split <;> simp
  | _ => simp [failureMarks]

/-- A walk that enters the last stage has taken a granting answer, and decides by the key in it. -/
theorem walk_verifies {steps : Nat} {p : Position} {c : Course}
    (walk : Walk g cancelled commit allowed steps p c)
    (known : Reached g cancelled commit allowed p)
    (entered : .event (.entered .verifySignature) ∈ c.marks) :
    ∃ envelope answer polls,
      Reached g cancelled commit allowed (.verifySignature envelope answer) ∧
      c.decision = some (verifySignature g.now commit envelope answer, polls) := by
  -- on the walk: no step enters a stage, so the last one is entered where some stage begins
  induction walk with
  | decided d => cases entered
  | endless never silent =>
    simp only [askedMarks, List.mem_cons] at entered
    split at entered <;> simp at entered
  | onward begins goes rest ih =>
    rcases List.mem_cons.1 entered with first | later
    · -- the walk begins with the last stage
      cases first
      cases goes <;> cases begins
      cases rest with
      | decided => exact ⟨_, _, _, known, rfl⟩
      | onward absurd' => cases absurd'
    · rcases List.mem_append.1 later with inside | later
      · exact absurd inside (goes.not_entered _)
      · obtain ⟨envelope, answer, n, known', hd⟩ := ih (reached_step _ _ _ _ goes known) later
        exact ⟨envelope, answer, _, known', by rw [Course.entering, hd]; rfl⟩

/-! ## Runs -/

theorem calls_runUntil :
    (g.runUntil cancelled commit allowed).calls =
      callsOf (checkEmail g cancelled commit allowed).marks := by
  cases hd : (checkEmail g cancelled commit allowed).decision with
  | none => rw [runUntil_of_endless hd]; rfl
  | some verdict =>
    obtain ⟨d, polls⟩ := verdict
    rw [runUntil_of_decided hd]
    exact (callsOf_append _ _).trans (List.append_nil _)

/-- The events of a run and its marks tell of the same stages. -/
theorem entered_of_mem_events {s : Stage}
    (entered : .entered s ∈ (g.runUntil cancelled commit allowed).events) :
    .event (.entered s) ∈ (checkEmail g cancelled commit allowed).marks := by
  obtain ⟨mark, hm, he⟩ := List.mem_filterMap.1 entered
  obtain rfl : mark = .event (.entered s) := by
    cases mark with
    | event e => simpa [Mark.event?] using he
    | _ => cases he
  cases hd : (checkEmail g cancelled commit allowed).decision with
  | none => rwa [runUntil_of_endless hd] at hm
  | some verdict =>
    obtain ⟨d, polls⟩ := verdict
    rw [runUntil_of_decided hd] at hm
    simpa using hm

/-- A run calls the authority once at most. It does so exactly if nothing of the allowlist makes the
commit trusted, its signature is read as an envelope, and the cancellation is not there at the first
poll; and then for the envelope's key and the committer. A run that enters the last stage has made this
call, and judges the bytes that the key id was read from by the key in the answer. -/
theorem runUntil_calls (g : Gate) (cancelled : Awaited Unit) (commit : Commit) (allowed : Applied) :
    (g.runUntil cancelled commit allowed).calls.length ≤ 1 ∧
    (∀ keyId email, (keyId, email) ∈ (g.runUntil cancelled commit allowed).calls ↔
      ∃ signature envelope, Asks g cancelled commit allowed signature envelope ∧
        keyId = envelope.issuerKeyId ∧ email = commit.committer.email) ∧
    (.entered .verifySignature ∈ (g.runUntil cancelled commit allowed).events →
      ∃ signature envelope answer polls,
        Asks g cancelled commit allowed signature envelope ∧
        Takes g cancelled commit envelope (.ok answer) polls ∧ answer.authorized = true ∧
        (g.runUntil cancelled commit allowed).outcome = some (report g commit allowed
          ((Keyring.verifyWith g.now answer.key.base64 commit.payload signature).map fun _ =>
            .managedKey envelope.issuerKeyId commit.committer.email))) := by
  obtain ⟨steps, walk⟩ := walk_checkEmail g cancelled commit allowed
  have due : DueFromStart g cancelled commit allowed
      (g.runUntil cancelled commit allowed).calls := by
    rw [calls_runUntil]
    exact walk_due walk trivial
  refine ⟨due.length_le_one, fun keyId email => due.mem_iff, ?_⟩
  intro entered
  obtain ⟨envelope, answer, polls, known, hd⟩ :=
    walk_verifies walk trivial (entered_of_mem_events entered)
  obtain ⟨hu, ⟨signature, hs, he⟩, ha, n, ht⟩ := known
  refine ⟨signature, envelope, answer, n, asks_iff.2 ⟨hu, hs, he, ht.2.not_isReady⟩, ht, ha, ?_⟩
  rw [runUntil_of_decided hd, verifySignature, raw_of_parse he]

end Gate

end CommitGate

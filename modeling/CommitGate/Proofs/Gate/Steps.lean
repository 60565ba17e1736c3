import CommitGate.Gate
import CommitGate.Proofs.Awaited
import CommitGate.Proofs.ThirdParty

/-! # A run of the gate, step by step

The gate's stages are functions that call each other. Here the same run is told as the walk of a machine
that stands at one position at a time:

* `Gate.Step` has one rule for each way in which a stage can go on or decide;
* `Gate.Walk` is a walk from a position to a decision, or to a wait without end;
* `walk_checkEmail`: the course of a run is the walk from the first position;
* `Walk.invariant`: what holds at the first position and is kept by every step holds at the decision.

A walk takes no more steps than there are stages left (`Walk.steps_le`), six from the first position.
-/

namespace CommitGate.Gate

/-- Where a run stands: before a stage, with what the earlier stages have produced, or at its
decision. -/
inductive Position where
  | checkEmail
  | checkThirdPartyKeys
  | requireSignature
  | parseSignature
  | authorize (envelope : Envelope)
  | verifySignature (envelope : Envelope) (answer : Authorization)
  | decided (d : Decision)

/-- The stage that begins at a position. -/
def Position.stage? : Position → Option Stage
  | .checkEmail => some .checkEmail
  | .checkThirdPartyKeys => some .checkThirdPartyKeys
  | .requireSignature => some .requireSignature
  | .parseSignature => some .parseSignature
  | .authorize _ => some .authorize
  | .verifySignature _ _ => some .verifySignature
  | .decided _ => none

/-! ## The authority's answer against the cancellation -/

/-- The run takes an answer of the authority: it comes, after `polls` polls that find nothing, and the
cancellation is not there by then. -/
def Takes (g : Gate) (cancelled : Awaited Unit) (commit : Commit) (envelope : Envelope)
    (answer : Except Fault Authorization) (polls : Nat) : Prop :=
  (g.authority envelope.issuerKeyId commit.committer.email).arrival? = some (polls, answer) ∧
    cancelled.AbsentAt polls

/-- The cancellation comes, after `polls` polls that find nothing, and no answer is there before. -/
def Cancels (g : Gate) (cancelled : Awaited Unit) (commit : Commit) (envelope : Envelope)
    (polls : Nat) : Prop :=
  cancelled.arrival? = some (polls, ()) ∧
    ∀ n answer, (g.authority envelope.issuerKeyId commit.committer.email).arrival? = some (n, answer) →
      polls ≤ n

/-! ## The machine -/

section

variable (g : Gate) (cancelled : Awaited Unit) (commit : Commit) (allowed : Applied)

/-- What is marked while the authority is asked, before its answer. -/
def askedMarks (envelope : Envelope) : List Mark :=
  .event (.asking envelope.issuerKeyId commit.committer.email) ::
    if cancelled.isReady then [] else [.called envelope.issuerKeyId commit.committer.email]

/-- The marks of the keys that have not verified the signature. -/
def failureMarks (failures : List (Nat × Keyring.Fault)) : List Mark :=
  failures.map fun (i, f) => .keyFailed i f

/-- The stage at a position leaves marks and leads to another position; so many polls of the
cancellation are part of it. -/
inductive Step : Position → List Mark → Nat → Position → Prop
  | emailAllowed (h : Email.isAllowed commit.committer.email allowed.emails = true) :
    Step .checkEmail [.event (.emailChecked commit.committer.email true)] 0
      (.decided (.ok (.emailAddress commit.committer.email)))
  | emailUnknown (h : Email.isAllowed commit.committer.email allowed.emails = false) :
    Step .checkEmail [.event (.emailChecked commit.committer.email false)] 0 .checkThirdPartyKeys
  | keyFound {i : Nat} {signer : Signer} {failures : List (Nat × Keyring.Fault)}
      (h : ThirdParty.check g.now commit.payload commit.signatureBytes allowed.keys =
        (.verified i signer, failures)) :
    Step .checkThirdPartyKeys (failureMarks failures ++
        [.event (.keysChecked allowed.keys.length (some signer.keyId) commit.isSigned)]) 0
      (.decided (.ok (.thirdPartyKey signer)))
  | keyUnknown {check : ThirdParty.Check} {failures : List (Nat × Keyring.Fault)}
      (h : ThirdParty.check g.now commit.payload commit.signatureBytes allowed.keys =
        (check, failures)) (hn : check.signer? = none) :
    Step .checkThirdPartyKeys (failureMarks failures ++
        [.event (.keysChecked allowed.keys.length none commit.isSigned)]) 0 .requireSignature
  | unsigned (h : commit.isSigned = false) :
    Step .requireSignature [] 0 (.decided (.error .unsigned))
  | signed (h : commit.isSigned = true) : Step .requireSignature [] 0 .parseSignature
  | unreadable {signature : Bytes} {fault : SignatureFault}
      (hs : commit.signatureBytes = some signature) (h : Envelope.parse signature = .error fault) :
    Step .parseSignature [] 0 (.decided (.error (.signature fault)))
  | readable {signature : Bytes} {envelope : Envelope}
      (hs : commit.signatureBytes = some signature) (h : Envelope.parse signature = .ok envelope) :
    Step .parseSignature [] 0 (.authorize envelope)
  | cancelled {envelope : Envelope} {polls : Nat} (h : Cancels g cancelled commit envelope polls) :
    Step (.authorize envelope) (askedMarks cancelled commit envelope) (polls + 1)
      (.decided (.error cancelledFault))
  | unanswered {envelope : Envelope} {fault : Fault} {polls : Nat}
      (h : Takes g cancelled commit envelope (.error fault) polls) :
    Step (.authorize envelope) (askedMarks cancelled commit envelope) (polls + 1)
      (.decided (.error fault))
  | denied {envelope : Envelope} {answer : Authorization} {polls : Nat}
      (h : Takes g cancelled commit envelope (.ok answer) polls) (ha : answer.authorized = false) :
    Step (.authorize envelope) (askedMarks cancelled commit envelope ++
        [.event (.answered envelope.issuerKeyId false)]) (polls + 1)
      (.decided (.error (.denied answer.message)))
  | authorized {envelope : Envelope} {answer : Authorization} {polls : Nat}
      (h : Takes g cancelled commit envelope (.ok answer) polls) (ha : answer.authorized = true) :
    Step (.authorize envelope) (askedMarks cancelled commit envelope ++
        [.event (.answered envelope.issuerKeyId true)]) (polls + 1) (.verifySignature envelope answer)
  | verified {envelope : Envelope} {answer : Authorization} :
    Step (.verifySignature envelope answer) [] 0
      (.decided (verifySignature g.now commit envelope answer))

/-- A course that begins with a stage and goes on with what comes after it. -/
def Course.entering (s : Stage) (marks : List Mark) (polls : Nat) (rest : Course) : Course :=
  ⟨.event (.entered s) :: (marks ++ rest.marks), rest.decision.map fun (d, n) => (d, polls + n)⟩

/-- The walk from a position, with the number of its steps and the course that it is. -/
inductive Walk : Nat → Position → Course → Prop
  | decided (d : Decision) : Walk 0 (.decided d) (.decided d)
  | onward {steps : Nat} {p q : Position} {s : Stage} {marks : List Mark} {polls : Nat} {c : Course}
      (begins : p.stage? = some s) (goes : Step g cancelled commit allowed p marks polls q)
      (rest : Walk steps q c) : Walk (steps + 1) p (.entering s marks polls c)
  /-- Neither the answer nor the cancellation ever comes. -/
  | endless {envelope : Envelope}
      (never : cancelled.arrival? = none)
      (silent : (g.authority envelope.issuerKeyId commit.committer.email).arrival? = none) :
      Walk 1 (.authorize envelope)
        ⟨.event (.entered .authorize) :: askedMarks cancelled commit envelope, none⟩

end

variable {g : Gate} {cancelled : Awaited Unit} {commit : Commit} {allowed : Applied}

/-- The walk of a step that decides. -/
theorem Walk.of_decided {p : Position} {s : Stage} {marks : List Mark} {polls : Nat} {d : Decision}
    (begins : p.stage? = some s)
    (goes : Step g cancelled commit allowed p marks polls (.decided d)) :
    Walk g cancelled commit allowed 1 p ⟨.event (.entered s) :: marks, some (d, polls)⟩ := by
  have walk := Walk.onward begins goes (.decided d)
  simpa [Course.entering, Course.decided] using walk

/-- The walk of a step that goes on without waiting. -/
theorem Walk.of_next {steps : Nat} {p q : Position} {s : Stage} {marks : List Mark} {c : Course}
    (begins : p.stage? = some s) (goes : Step g cancelled commit allowed p marks 0 q)
    (rest : Walk g cancelled commit allowed steps q c) :
    Walk g cancelled commit allowed (steps + 1) p
      ⟨.event (.entered s) :: (marks ++ c.marks), c.decision⟩ := by
  have walk := Walk.onward begins goes rest
  simpa [Course.entering] using walk

/-! ## The stages as walks, the last one first -/

/-- The event of the keys tells whether there is a signature by the check, which knows it as the commit
does. -/
theorem isSigned_eq_check (now : Nat) (commit : Commit) (keys : List ThirdParty.ListedKey) :
    commit.isSigned =
      ((ThirdParty.check now commit.payload commit.signatureBytes keys).1 != .unsigned) := by
  rw [Bool.eq_iff_iff, bne_iff_ne, ne_eq, ThirdParty.check_eq_unsigned_iff]
  simp [Commit.isSigned, Commit.signatureBytes, Option.isSome_iff_ne_none]

section

variable (g : Gate) (cancelled : Awaited Unit) (commit : Commit) (allowed : Applied)

theorem walk_authorize (envelope : Envelope) :
    ∃ steps, Walk g cancelled commit allowed steps (.authorize envelope)
      (authorize g cancelled commit envelope) := by
  simp only [authorize]
  -- the race decides between the rules of this position
  cases hr : cancelled.race (g.authority envelope.issuerKeyId commit.committer.email) with
  | first u polls =>
    obtain ⟨m, rfl, hc, hle⟩ := Awaited.race_eq_first_iff.1 hr
    exact ⟨1, .of_decided rfl (.cancelled ⟨hc, hle⟩)⟩
  | second answer polls =>
    obtain ⟨n, rfl, hn, hc⟩ := Awaited.race_eq_second_iff.1 hr
    cases answer with
    | error fault =>
      have walk : Walk g cancelled commit allowed 1 (.authorize envelope) _ :=
        .of_decided rfl (.unanswered ⟨hn, hc⟩)
      exact ⟨1, by simpa [judge, askedMarks, Course.telling] using walk⟩
    | ok answer =>
      cases ha : answer.authorized with
      | false =>
        have walk : Walk g cancelled commit allowed 1 (.authorize envelope) _ :=
          .of_decided rfl (.denied ⟨hn, hc⟩ ha)
        exact ⟨1, by simpa [judge, ha, askedMarks, Course.telling] using walk⟩
      | true =>
        have walk : Walk g cancelled commit allowed 2 (.authorize envelope) _ :=
          .onward rfl (.authorized ⟨hn, hc⟩ ha) (.of_decided rfl .verified)
        exact ⟨2, by
          simpa [judge, ha, askedMarks, Course.telling, Course.entering] using walk⟩
  | endless =>
    obtain ⟨hc, hn⟩ := Awaited.race_eq_endless_iff.1 hr
    exact ⟨1, .endless hc hn⟩

/-- From `requireSignature` on, two stages follow at once when there is a signature. -/
theorem walk_requireSignature :
    ∃ steps, Walk g cancelled commit allowed steps .requireSignature
      (readSignature g cancelled commit) := by
  unfold readSignature
  cases hs : commit.signatureBytes with
  | none =>
    have unsigned : commit.isSigned = false := by
      simpa [Commit.signatureBytes, Commit.isSigned] using hs
    exact ⟨1, .of_decided rfl (.unsigned unsigned)⟩
  | some signature =>
    have signed : commit.isSigned = true := by
      obtain ⟨text, ht, -⟩ := Option.map_eq_some_iff.1 hs
      simp [Commit.isSigned, ht]
    cases he : Envelope.parse signature with
    | error fault =>
      have walk : Walk g cancelled commit allowed 2 .requireSignature _ :=
        .of_next rfl (.signed signed) (.of_decided rfl (.unreadable hs he))
      exact ⟨2, by simpa [Course.telling, Course.decided, he] using walk⟩
    | ok envelope =>
      obtain ⟨steps, rest⟩ := walk_authorize g cancelled commit allowed envelope
      have walk : Walk g cancelled commit allowed (steps + 2) .requireSignature _ :=
        .of_next rfl (.signed signed) (.of_next rfl (.readable hs he) rest)
      exact ⟨steps + 2, by simpa [Course.telling, he] using walk⟩

theorem walk_checkThirdPartyKeys :
    ∃ steps, Walk g cancelled commit allowed steps .checkThirdPartyKeys
      (checkKeys g cancelled commit allowed) := by
  have signed := isSigned_eq_check g.now commit allowed.keys
  obtain ⟨steps, rest⟩ := walk_requireSignature g cancelled commit allowed
  unfold checkKeys
  rcases hc : ThirdParty.check g.now commit.payload commit.signatureBytes allowed.keys
    with ⟨check, failures⟩
  rw [hc] at signed
  cases check with
  | verified i signer =>
    have walk : Walk g cancelled commit allowed 1 .checkThirdPartyKeys _ :=
      .of_decided rfl (.keyFound hc)
    exact ⟨1, by
      simpa [Course.telling, Course.decided, failureMarks, verifiedKeyId?, signed] using walk⟩
  | noMatch =>
    have walk : Walk g cancelled commit allowed (steps + 1) .checkThirdPartyKeys _ :=
      .of_next rfl (.keyUnknown hc rfl) rest
    exact ⟨steps + 1, by simpa [Course.telling, failureMarks, verifiedKeyId?, signed] using walk⟩
  | unsigned =>
    have walk : Walk g cancelled commit allowed (steps + 1) .checkThirdPartyKeys _ :=
      .of_next rfl (.keyUnknown hc rfl) rest
    exact ⟨steps + 1, by simpa [Course.telling, failureMarks, verifiedKeyId?, signed] using walk⟩

/-- The course of a run is the walk from the first position. -/
theorem walk_checkEmail :
    ∃ steps, Walk g cancelled commit allowed steps .checkEmail
      (checkEmail g cancelled commit allowed) := by
  simp only [checkEmail]
  cases hm : Email.isAllowed commit.committer.email allowed.emails with
  | true => exact ⟨1, .of_decided rfl (.emailAllowed hm)⟩
  | false =>
    obtain ⟨steps, rest⟩ := walk_checkThirdPartyKeys g cancelled commit allowed
    exact ⟨steps + 1, .of_next rfl (.emailUnknown hm) rest⟩

end

/-! ## From the course to the run -/

/-- A run whose course has no decision goes on for ever. -/
theorem runUntil_of_endless (h : (checkEmail g cancelled commit allowed).decision = none) :
    g.runUntil cancelled commit allowed =
      ⟨none, (checkEmail g cancelled commit allowed).marks, none⟩ := by
  simp [runUntil, h]

/-- A run whose course has a decision ends with its report. -/
theorem runUntil_of_decided {d : Decision} {polls : Nat}
    (h : (checkEmail g cancelled commit allowed).decision = some (d, polls)) :
    g.runUntil cancelled commit allowed =
      ⟨some (report g commit allowed d),
        (checkEmail g cancelled commit allowed).marks ++
          [.event (.finished (report g commit allowed d).passed
            (report g commit allowed d).description)],
        some polls⟩ := by
  simp [runUntil, h]

/-- An outcome of a run reports the decision of its course. -/
theorem exists_decision {o : Outcome} (ends : (g.runUntil cancelled commit allowed).outcome = some o) :
    ∃ d polls, (checkEmail g cancelled commit allowed).decision = some (d, polls) ∧
      o = report g commit allowed d := by
  cases hd : (checkEmail g cancelled commit allowed).decision with
  | none =>
    rw [runUntil_of_endless hd] at ends
    cases ends
  | some verdict =>
    obtain ⟨d, polls⟩ := verdict
    rw [runUntil_of_decided hd] at ends
    cases ends
    exact ⟨d, polls, rfl, rfl⟩

/-! ## What every step keeps -/

/-- How many stages are left at a position. -/
def Position.stagesLeft : Position → Nat
  | .checkEmail => 6
  | .checkThirdPartyKeys => 5
  | .requireSignature => 4
  | .parseSignature => 3
  | .authorize _ => 2
  | .verifySignature _ _ => 1
  | .decided _ => 0

/-- A step leaves fewer stages than there were. -/
theorem Step.stagesLeft_lt {p q : Position} {marks : List Mark} {polls : Nat}
    (goes : Step g cancelled commit allowed p marks polls q) : q.stagesLeft < p.stagesLeft := by
  cases goes <;> simp [Position.stagesLeft]

/-- A walk takes no more steps than there are stages left. -/
theorem Walk.steps_le {steps : Nat} {p : Position} {c : Course}
    (walk : Walk g cancelled commit allowed steps p c) : steps ≤ p.stagesLeft := by
  induction walk with
  | decided d => exact Nat.le_refl 0
  | onward begins goes rest ih =>
    have := goes.stagesLeft_lt
    omega
  | endless never silent => simp [Position.stagesLeft]

/-- What every step keeps holds at the decision. -/
theorem Walk.invariant {I : Position → Prop}
    (keeps : ∀ p q marks polls, Step g cancelled commit allowed p marks polls q → I p → I q)
    {steps : Nat} {p : Position} {c : Course} (walk : Walk g cancelled commit allowed steps p c)
    (start : I p) {d : Decision} {polls : Nat} (ends : c.decision = some (d, polls)) :
    I (.decided d) := by
  -- on the walk, whose steps carry `I` from its first position to the decision
  induction walk generalizing polls with
  | decided d' =>
    simp only [Course.decided, Option.some.injEq, Prod.mk.injEq] at ends
    rwa [ends.1] at start
  | onward begins goes rest ih =>
    obtain ⟨⟨d', n⟩, hd, heq⟩ := Option.map_eq_some_iff.1 ends
    simp only [Prod.mk.injEq] at heq
    obtain ⟨rfl, -⟩ := heq
    exact ih (keeps _ _ _ _ goes start) hd
  | endless never silent => cases ends

end CommitGate.Gate

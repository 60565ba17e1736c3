import CommitGate.Proofs.Envelope
import CommitGate.Proofs.Gate.Steps

/-! # What is known where a run stands

Every stage of the gate is entered with what the earlier stages have found, and every decision has one
cause:

* `Gate.Reached` says what is known at each position;
* `reached_step`: every step keeps it;
* `cause_of_run`: hence the decision of a run has one of the causes of `Gate.Cause`;
* `waits_of_endless`: a run that never ends waits for an authority that never answers.
-/

namespace CommitGate.Gate

/-- The commit's signature is read as the envelope. -/
def Reads (commit : Commit) (envelope : Envelope) : Prop :=
  ∃ signature, commit.signatureBytes = some signature ∧ Envelope.parse signature = .ok envelope

section

variable (g : Gate) (cancelled : Awaited Unit) (commit : Commit) (allowed : Applied)

/-- The signer that the keys of the allowlist find. -/
def listedSigner? : Option Signer :=
  (ThirdParty.check g.now commit.payload commit.signatureBytes allowed.keys).1.signer?

/-- Neither an address nor a key of the allowlist makes the commit trusted. -/
structure Unlisted : Prop where
  email : Email.isAllowed commit.committer.email allowed.emails = false
  key : listedSigner? g commit allowed = none

/-- Why a run decides as it does. -/
inductive Cause : Decision → Prop
  | emailAllowed (h : Email.isAllowed commit.committer.email allowed.emails = true) :
    Cause (.ok (.emailAddress commit.committer.email))
  | keyFound {signer : Signer} (hm : Email.isAllowed commit.committer.email allowed.emails = false)
      (h : listedSigner? g commit allowed = some signer) : Cause (.ok (.thirdPartyKey signer))
  | unsigned (hu : Unlisted g commit allowed) (h : commit.signatureBytes = none) :
    Cause (.error .unsigned)
  | unreadable {signature : Bytes} {fault : SignatureFault} (hu : Unlisted g commit allowed)
      (hs : commit.signatureBytes = some signature) (h : Envelope.parse signature = .error fault) :
    Cause (.error (.signature fault))
  | cancelled {envelope : Envelope} {polls : Nat} (hu : Unlisted g commit allowed)
      (hr : Reads commit envelope) (h : Cancels g cancelled commit envelope polls) :
    Cause (.error cancelledFault)
  | unanswered {envelope : Envelope} {fault : Fault} {polls : Nat} (hu : Unlisted g commit allowed)
      (hr : Reads commit envelope) (h : Takes g cancelled commit envelope (.error fault) polls) :
    Cause (.error fault)
  | denied {envelope : Envelope} {answer : Authorization} {polls : Nat}
      (hu : Unlisted g commit allowed) (hr : Reads commit envelope)
      (h : Takes g cancelled commit envelope (.ok answer) polls) (ha : answer.authorized = false) :
    Cause (.error (.denied answer.message))
  | verified {envelope : Envelope} {answer : Authorization} {polls : Nat}
      (hu : Unlisted g commit allowed) (hr : Reads commit envelope)
      (h : Takes g cancelled commit envelope (.ok answer) polls) (ha : answer.authorized = true) :
    Cause (verifySignature g.now commit envelope answer)

/-- What is known at a position. -/
def Reached : Position → Prop
  | .checkEmail => True
  | .checkThirdPartyKeys => Email.isAllowed commit.committer.email allowed.emails = false
  | .requireSignature | .parseSignature => Unlisted g commit allowed
  | .authorize envelope => Unlisted g commit allowed ∧ Reads commit envelope
  | .verifySignature envelope answer =>
    Unlisted g commit allowed ∧ Reads commit envelope ∧ answer.authorized = true ∧
      ∃ polls, Takes g cancelled commit envelope (.ok answer) polls
  | .decided d => Cause g cancelled commit allowed d

end

variable {g : Gate} {cancelled : Awaited Unit} {commit : Commit} {allowed : Applied}

theorem signatureBytes_eq_none_iff : commit.signatureBytes = none ↔ commit.isSigned = false := by
  simp [Commit.signatureBytes, Commit.isSigned]

/-- The envelope keeps the bytes that it was read from. -/
theorem raw_of_parse {signature : Bytes} {envelope : Envelope}
    (h : Envelope.parse signature = .ok envelope) : envelope.raw = signature :=
  (Envelope.parse_eq_ok_iff.1 h).1

/-- Every step keeps what is known. -/
theorem reached_step (p q : Position) (marks : List Mark) (polls : Nat)
    (goes : Step g cancelled commit allowed p marks polls q)
    (known : Reached g cancelled commit allowed p) : Reached g cancelled commit allowed q := by
  cases goes with
  | emailAllowed h => exact .emailAllowed h
  | emailUnknown h => exact h
  | keyFound h => exact .keyFound known (by simp [listedSigner?, h, ThirdParty.Check.signer?])
  | keyUnknown h hn => exact ⟨known, by simpa [listedSigner?, h] using hn⟩
  | unsigned h => exact .unsigned known (signatureBytes_eq_none_iff.2 h)
  | signed h => exact known
  | unreadable hs h => exact .unreadable known hs h
  | readable hs h => exact ⟨known, _, hs, h⟩
  | cancelled h => exact .cancelled known.1 known.2 h
  | unanswered h => exact .unanswered known.1 known.2 h
  | denied h ha => exact .denied known.1 known.2 h ha
  | authorized h ha => exact ⟨known.1, known.2, ha, _, h⟩
  | verified =>
    obtain ⟨hu, hr, ha, n, h⟩ := known
    exact .verified hu hr h ha

/-- The decision of a run has a cause. -/
theorem cause_of_run {d : Decision} {polls : Nat}
    (ends : (checkEmail g cancelled commit allowed).decision = some (d, polls)) :
    Cause g cancelled commit allowed d := by
  obtain ⟨steps, walk⟩ := walk_checkEmail g cancelled commit allowed
  exact walk.invariant (I := Reached g cancelled commit allowed) reached_step trivial ends

/-- A walk that never ends waits for an authority that never answers, and nobody cancels it. -/
theorem Walk.waits_of_endless {steps : Nat} {p : Position} {c : Course}
    (walk : Walk g cancelled commit allowed steps p c)
    (known : Reached g cancelled commit allowed p) (endless : c.decision = none) :
    ∃ envelope, Unlisted g commit allowed ∧ Reads commit envelope ∧ cancelled.arrival? = none ∧
      (g.authority envelope.issuerKeyId commit.committer.email).arrival? = none := by
  induction walk with
  | decided d => cases endless
  | onward begins goes rest ih =>
    exact ih (reached_step _ _ _ _ goes known) (Option.map_eq_none_iff.1 endless)
  | endless never silent => exact ⟨_, known.1, known.2, never, silent⟩

/-- So a run without an outcome waits for an authority that never answers. -/
theorem waits_of_runUntil (endless : (g.runUntil cancelled commit allowed).outcome = none) :
    ∃ envelope, Unlisted g commit allowed ∧ Reads commit envelope ∧ cancelled.arrival? = none ∧
      (g.authority envelope.issuerKeyId commit.committer.email).arrival? = none := by
  obtain ⟨steps, walk⟩ := walk_checkEmail g cancelled commit allowed
  refine walk.waits_of_endless trivial ?_
  -- a decision would have been reported
  rw [Option.eq_none_iff_forall_ne_some]
  rintro ⟨d, polls⟩ decided
  rw [runUntil_of_decided decided] at endless
  cases endless

end CommitGate.Gate

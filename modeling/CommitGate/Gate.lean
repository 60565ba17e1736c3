import CommitGate.Allowlist.Basic
import CommitGate.Authority.Authorization
import CommitGate.Awaited
import CommitGate.Outcome.Basic
import CommitGate.Progress

/-! # The gate

The gate decides whether a commit to a repository is trusted. It asks in this order, and the first that
says yes decides:

* the allowlist, for the committer's address,
* the allowlist's keys, for the signature,
* the authority, for the key that the signature names; the signature must verify with the key in the
  authority's answer.

`Gate.run` decides, and `Gate.runUntil` does so until it is cancelled. Only the wait for the authority can
be cancelled, and it is all that can take for ever.
-/

namespace CommitGate

/-- Whoever is asked whether the key with an id may sign for a committer's address. -/
abbrev Authority := String → String → Awaited (Except Fault Authorization)

/-- A gate to a repository, at a moment in seconds since 1970. -/
structure Gate where
  repository : String
  authority : Authority
  now : Nat

/-- A decision: what made the commit trusted, or why it is not. -/
abbrev Decision := Except Fault TrustSource

/-- The account of a run. -/
structure Run where
  /-- The outcome, if the run ends. -/
  outcome : Option Outcome
  /-- What has happened, in order. -/
  marks : List Mark
  /-- How often the cancellation was polled, if the run ends. -/
  polls : Option Nat
deriving DecidableEq, Repr

namespace Run

/-- The events of a run. -/
def events (r : Run) : List Event := r.marks.filterMap Mark.event?

/-- The calls of the authority in a run. -/
def calls (r : Run) : List (String × String) := r.marks.filterMap Mark.call?

end Run

namespace Gate

/-- How far a run has come: its marks, the decision if there is one, and the polls of the cancellation
that led to it. -/
structure Course where
  marks : List Mark
  decision : Option (Decision × Nat)

namespace Course

/-- A course that ends with a decision, without waiting for anything. -/
def decided (d : Decision) : Course := ⟨[], some (d, 0)⟩

/-- Put events in front of a course. -/
def telling (events : List Event) (c : Course) : Course :=
  { c with marks := events.map .event ++ c.marks }

end Course

/-! ## Stages, the last one first -/

/-- The last stage: the signature must verify with the key in the authority's answer. -/
def verifySignature (now : Nat) (commit : Commit) (envelope : Envelope) (answer : Authorization) :
    Decision :=
  (Keyring.verifyWith now answer.key.base64 commit.payload envelope.raw).map fun _ =>
    .managedKey envelope.issuerKeyId commit.committer.email

/-- What an answer of the authority comes to. -/
def judge (now : Nat) (commit : Commit) (envelope : Envelope) :
    Except Fault Authorization → List Event × Decision
  | .error fault => ([], .error fault)
  | .ok answer =>
    let told := Event.answered envelope.issuerKeyId answer.authorized
    if answer.authorized then
      ([told, .entered .verifySignature], verifySignature now commit envelope answer)
    else ([told], .error (.denied answer.message))

/-- The fault of a run that is cancelled. -/
def cancelledFault : Fault := .transport "authorization request cancelled"

/-- Ask the authority, unless that is cancelled first. -/
def authorize (g : Gate) (cancelled : Awaited Unit) (commit : Commit) (envelope : Envelope) : Course :=
  let keyId := envelope.issuerKeyId
  let email := commit.committer.email
  let call := if cancelled.isReady then [] else [Mark.called keyId email]
  Course.telling [.entered .authorize, .asking keyId email] <|
    match cancelled.race (g.authority keyId email) with
    | .first () polls => ⟨call, some (.error cancelledFault, polls)⟩
    | .second answer polls =>
      let (events, decision) := judge g.now commit envelope answer
      ⟨call ++ events.map .event, some (decision, polls)⟩
    | .endless => ⟨call, none⟩

/-- The signature must be there and name a key. -/
def readSignature (g : Gate) (cancelled : Awaited Unit) (commit : Commit) : Course :=
  Course.telling [.entered .requireSignature] <|
    match commit.signatureBytes with
    | none => .decided (.error .unsigned)
    | some signature => Course.telling [.entered .parseSignature] <|
      match Envelope.parse signature with
      | .error fault => .decided (.error (.signature fault))
      | .ok envelope => authorize g cancelled commit envelope

/-- The key id of the certificate that has been found to have made a signature. -/
def verifiedKeyId? : ThirdParty.Check → Option String
  | .verified _ signer => some signer.keyId
  | .noMatch | .unsigned => none

/-- The allowlist's keys may verify the signature. -/
def checkKeys (g : Gate) (cancelled : Awaited Unit) (commit : Commit) (allowed : Applied) : Course :=
  let (check, failures) := ThirdParty.check g.now commit.payload commit.signatureBytes allowed.keys
  let rest := Course.telling
    [.keysChecked allowed.keys.length (verifiedKeyId? check) (check != .unsigned)] <|
    match check with
    | .verified _ signer => .decided (.ok (.thirdPartyKey signer))
    | .noMatch | .unsigned => readSignature g cancelled commit
  Course.telling [.entered .checkThirdPartyKeys]
    { rest with marks := failures.map (fun (i, f) => .keyFailed i f) ++ rest.marks }

/-- The first stage: the committer's address may be allowed. -/
def checkEmail (g : Gate) (cancelled : Awaited Unit) (commit : Commit) (allowed : Applied) : Course :=
  let email := commit.committer.email
  let matched := Email.isAllowed email allowed.emails
  Course.telling [.entered .checkEmail, .emailChecked email matched] <|
    if matched then .decided (.ok (.emailAddress email)) else checkKeys g cancelled commit allowed

/-! ## Runs -/

/-- The outcome that reports a decision. -/
def report (g : Gate) (commit : Commit) (allowed : Applied) : Decision → Outcome
  | .ok source => .pass g.repository (some commit) source allowed.faults
  | .error fault => .fail g.repository (some commit) allowed.faults fault

/-- Decide about a commit with the entries of an allowlist, unless that is cancelled. -/
def runUntil (g : Gate) (cancelled : Awaited Unit) (commit : Commit) (allowed : Applied) : Run :=
  let course := checkEmail g cancelled commit allowed
  match course.decision with
  | none => ⟨none, course.marks, none⟩
  | some (decision, polls) =>
    let outcome := report g commit allowed decision
    ⟨some outcome, course.marks ++ [.event (.finished outcome.passed outcome.description)], some polls⟩

/-- Decide about a commit with the entries of an allowlist. -/
def run (g : Gate) (commit : Commit) (allowed : Applied) : Run := g.runUntil .never commit allowed

end Gate

/-! ## Journals -/

/-- The events of several runs, in order. -/
structure Journal where
  events : List Event
deriving DecidableEq, Repr

namespace Journal

/-- A journal before the first run. -/
def empty : Journal := ⟨[]⟩

/-- Put down a run. -/
def add (j : Journal) (r : Run) : Journal := ⟨j.events ++ r.events⟩

/-- The stages of all runs. -/
def stages (j : Journal) : List Stage := Event.stages j.events

end Journal

end CommitGate

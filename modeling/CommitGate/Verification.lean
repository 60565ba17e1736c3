import CommitGate.Allowlist.Reader
import CommitGate.Authority.Client
import CommitGate.Gate
import CommitGate.Settings

/-! # Verifications

A verification goes from settings to a report. It ends in one of these ways, looked for in this order:

* the settings are faulty, or there is no client of the authority for them: nothing outside is looked at;
* the commit cannot be read;
* the allowlist cannot be read;
* the gate decides.

`Verification.run` verifies, given what it finds outside. Its `Account` lists all that it does there.
-/

namespace CommitGate

/-- What a verification finds outside. -/
structure Surroundings where
  /-- The commit that a reference names. -/
  commitAt : String → Except Fault Commit
  /-- What the file of a path holds. -/
  contentOf : String → Except FileFault Bytes
  /-- The authority as it answers a client. -/
  authority : Authority.Client → Authority
  cancelled : Awaited Unit
  /-- The moment in seconds since 1970. -/
  now : Nat

/-- What a verification leaves: an outcome, and the exit code of a program that ends with it. -/
structure Report where
  outcome : Outcome
  exitCode : Nat
deriving DecidableEq, Repr

namespace Report

/-- The report of an outcome that was decided. -/
def decided (o : Outcome) : Report := ⟨o, o.exitCode⟩

/-- The exit code of a program that cannot begin. -/
def refusal : Nat := 2

/-- The report of a verification that cannot begin. -/
def refused (o : Outcome) : Report := ⟨o, refusal⟩

end Report

/-! ## Accounts -/

/-- What a verification does. -/
inductive Act where
  | readCommit (reference : String)
  /-- There is a commit to verify. -/
  | began (hash email : String)
  | readAllowlist (path : String)
  /-- An entry of the allowlist cannot be used. -/
  | skipped (entry : Skipped)
  | marked (m : Mark)
deriving DecidableEq, Repr

namespace Act

/-- The gate's mark that an act is. -/
def mark? : Act → Option Mark
  | marked m => some m
  | _ => none

/-- The records of an act, given those of the gate's marks. -/
def records (ofMark : Mark → List Log.Record) : Act → List Log.Record
  | began hash email =>
    [⟨.info, "verifying commit", [("hash", .text hash), ("committer", .text email)]⟩]
  | skipped entry => [entry.record]
  | marked m => ofMark m
  | readCommit _ | readAllowlist _ => []

end Act

/-- A verification's report, if it ends, and what it has done, in order. -/
structure Account where
  report : Option Report
  acts : List Act
deriving DecidableEq, Repr

namespace Account

/-- Put acts in front of an account. -/
def after (acts : List Act) (a : Account) : Account := { a with acts := acts ++ a.acts }

/-- The account of a verification that ends without doing anything. -/
def ended (r : Report) : Account := ⟨some r, []⟩

/-- The gate's marks. -/
def marks (a : Account) : List Mark := a.acts.filterMap Act.mark?

/-- The events, in order. -/
def events (a : Account) : List Event := a.marks.filterMap Mark.event?

/-- The calls of the authority. -/
def calls (a : Account) : List (String × String) := a.marks.filterMap Mark.call?

end Account

/-! ## The verification, its last part first -/

namespace Verification

/-- Let the gate decide. -/
def pass (w : Surroundings) (s : Settings) (client : Authority.Client) (commit : Commit)
    (allowlist : Allowlist) : Account :=
  let applied := allowlist.resolve s.repository
  let gate : Gate := ⟨s.repository, w.authority client, w.now⟩
  let run := gate.runUntil w.cancelled commit applied
  ⟨run.outcome.map .decided, applied.skipped.map .skipped ++ run.marks.map .marked⟩

/-- Read the allowlist, if there is one, and go on. -/
def withCommit (w : Surroundings) (s : Settings) (client : Authority.Client) (commit : Commit) :
    Account :=
  match s.allowlist with
  | none => pass w s client commit .empty
  | some path => .after [.readAllowlist path] <|
    match Allowlist.ofFile path (w.contentOf path) with
    | .ok allowlist => pass w s client commit allowlist
    | .error fault => .ended (.decided (.fail s.repository (some commit) [] fault))

/-- Read the commit and go on. -/
def withClient (w : Surroundings) (s : Settings) (client : Authority.Client) : Account :=
  .after [.readCommit s.reference] <|
    match w.commitAt s.reference with
    | .ok commit =>
      .after [.began commit.hash commit.committer.email] (withCommit w s client commit)
    | .error fault => .ended (.decided (.fail s.repository none [] fault))

/-- Verify a commit. -/
def run (w : Surroundings) (s : Settings) : Account :=
  match Outcome.failAll s.repository s.faults with
  | some outcome => .ended (.refused outcome)
  | none =>
    match Authority.Client.ofConfig s.authority with
    | .ok client => withClient w s client
    | .error fault => .ended (.refused (.fail s.repository none [] fault.whenMade))

end Verification

end CommitGate

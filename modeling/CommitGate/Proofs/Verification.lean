import CommitGate.Proofs.Gate.Reach
import CommitGate.Proofs.Settings
import CommitGate.Verification
import Mathlib.Logic.ExistsUnique

/-! # What a verification reports

A verification ends in one of five ways, four of them before the gate has anything to decide.

* `Verification.Ends` has one rule for each of the ways, and `existsUnique_ends` says that there is always
  exactly one;
* `Outcome.FailsFor` and `Outcome.Settles` tell what an outcome shows of faults that end a verification
  early, and of a decision;
* `run_report`: what is done and what is reported in each of the ways;
* `exists_report`: the report is there unless an authority is waited for that never answers.
-/

namespace CommitGate

/-! ## Outcomes -/

namespace Outcome

/-- A FAIL for faults that have been found at once. -/
structure FailsFor (o : Outcome) (commit : Option Commit) (faults : List Fault) : Prop where
  verdict : o.verdict = .fail
  source : o.source = none
  commit : o.commit = commit.map Commit.snapshot
  errors : o.errors = faults.map Fault.message
  description : o.description = String.intercalate "; " (faults.map Fault.message)

/-- An outcome about a commit, with the faults that did not matter before the one that did. -/
structure Settles (o : Outcome) (commit : Commit) (tolerated : List Fault) : Prop where
  commit : o.commit = some commit.snapshot
  pass : o.verdict = .pass → o.errors = tolerated.map Fault.message
  fail : o.verdict = .fail → o.errors = tolerated.map Fault.message ++ [o.description]

/-- One fault is a list of faults. -/
theorem failsFor_fail (repository : String) (commit : Option Commit) (fault : Fault) :
    (fail repository commit [] fault).FailsFor commit [fault] where
  verdict := rfl
  source := rfl
  commit := rfl
  errors := rfl
  description := String.intercalate_singleton.symm

/-- There is a FAIL for several faults exactly if there are any. -/
theorem failAll_eq_none_iff {repository : String} {faults : List Fault} :
    failAll repository faults = none ↔ faults = [] := by
  rw [failAll, Option.map_eq_none_iff, List.getLast?_eq_none_iff]

theorem failsFor_failAll {repository : String} {faults : List Fault} {o : Outcome}
    (h : failAll repository faults = some o) : o.FailsFor none faults := by
  obtain ⟨last, hlast, rfl⟩ := Option.map_eq_some_iff.1 h
  -- the last fault is reported apart, but as the others are
  have together : faults.dropLast ++ [last] = faults := List.dropLast_append_getLast? last hlast
  refine ⟨rfl, rfl, rfl, ?_, rfl⟩
  calc faults.dropLast.map Fault.message ++ [last.message]
      = (faults.dropLast ++ [last]).map Fault.message := by rw [List.map_append, List.map_singleton]
    _ = faults.map Fault.message := by rw [together]

/-- The faults of the allowlist's entries stand before the fault that is decisive. -/
theorem settles_report (g : Gate) (commit : Commit) (allowed : Applied) (d : Decision) :
    (g.report commit allowed d).Settles commit allowed.faults := by
  cases d with
  | ok source =>
    refine ⟨rfl, fun _ => rfl, fun h => ?_⟩
    cases h
  | error fault =>
    refine ⟨rfl, fun h => ?_, fun _ => rfl⟩
    cases h

end Outcome

/-! ## Reports -/

namespace Report

/-- The exit code, the verdict and the trust source tell the same. -/
structure IsConsistent (r : Report) : Prop where
  exitCode : r.exitCode = 0 ↔ r.outcome.verdict = .pass
  source : r.outcome.verdict = .pass ↔ r.outcome.source.isSome = true

/-- A FAIL without a trust source is consistent with any exit code but 0. -/
theorem isConsistent_of_fail {r : Report} (verdict : r.outcome.verdict = .fail)
    (source : r.outcome.source = none) (exitCode : r.exitCode ≠ 0) : r.IsConsistent where
  exitCode := by simp [verdict, exitCode]
  source := by simp [verdict, source]

/-- The report of a decision is consistent. -/
theorem isConsistent_decided (g : Gate) (commit : Commit) (allowed : Applied) (d : Decision) :
    (decided (g.report commit allowed d)).IsConsistent := by
  cases d with
  | ok source => exact ⟨iff_of_true rfl rfl, iff_of_true rfl rfl⟩
  | error fault => exact isConsistent_of_fail rfl rfl Nat.one_ne_zero

end Report

/-! ## Accounts -/

namespace Account

/-- An account that ends early: nothing is told and nobody is asked, and the report shows faults that have
been found at once. -/
structure Stops (a : Account) (exitCode : Nat) (commit : Option Commit) (faults : List Fault) :
    Prop where
  report : ∃ o, a.report = some ⟨o, exitCode⟩ ∧ o.FailsFor commit faults
  events : a.events = []
  calls : a.calls = []

/-- A verification that ends before it does anything. -/
theorem stops_ended {exitCode : Nat} {o : Outcome} {commit : Option Commit} {faults : List Fault}
    (fails : o.FailsFor commit faults) :
    (ended ⟨o, exitCode⟩).Stops exitCode commit faults :=
  ⟨⟨o, rfl, fails⟩, rfl, rfl⟩

/-- Acts that the gate knows nothing of are neither events nor calls. -/
theorem marks_after {acts : List Act} (h : ∀ act ∈ acts, act.mark? = none) (a : Account) :
    (a.after acts).marks = a.marks := by
  rw [marks, after, List.filterMap_append, List.filterMap_eq_nil_iff.2 h,
    List.nil_append]
  rfl

/-- So an account that ends early still does after them. -/
theorem Stops.after {acts : List Act} (h : ∀ act ∈ acts, act.mark? = none) {a : Account}
    {exitCode : Nat} {commit : Option Commit} {faults : List Fault}
    (stops : a.Stops exitCode commit faults) : (a.after acts).Stops exitCode commit faults where
  report := stops.report
  events := by
    rw [Account.events, marks_after h]
    exact stops.events
  calls := by
    rw [Account.calls, marks_after h]
    exact stops.calls

theorem isConsistent_of_stops {a : Account} {exitCode : Nat} {commit : Option Commit}
    {faults : List Fault} (stops : a.Stops exitCode commit faults) (fails : exitCode ≠ 0) {r : Report}
    (reported : a.report = some r) : r.IsConsistent := by
  obtain ⟨o, ho, failsFor⟩ := stops.report
  obtain rfl : r = ⟨o, exitCode⟩ := Option.some.inj (reported.symm.trans ho)
  exact Report.isConsistent_of_fail failsFor.verdict failsFor.source fails

end Account

/-- The faults of entries that cannot be used end no verification. -/
theorem Applied.isFatal_of_mem_faults {allowed : Applied} {f : Fault} (h : f ∈ allowed.faults) :
    f.isFatal = false := by
  obtain ⟨skipped, -, rfl⟩ := List.mem_map.1 h
  cases skipped <;> rfl

/-- There is no client only where the settings of the client are at fault. -/
theorem Authority.Client.exists_settings_of_ofConfig {c : Authority.Config} {fault : Authority.Fault}
    (h : Authority.Client.ofConfig c = .error fault) : ∃ detail, fault = .settings detail := by
  unfold Authority.Client.ofConfig at h
  dsimp only at h
  split at h
  · split at h
    · cases h
      exact ⟨_, rfl⟩
    · obtain ⟨token, -, h⟩ := (bind_eq_error_iff.1 h).resolve_left nofun
      split at h
      · cases h
      · cases h
        exact ⟨_, rfl⟩
      · cases h
        exact ⟨_, rfl⟩
  · cases h
    exact ⟨_, rfl⟩

namespace Verification

/-! ## Ends -/

/-- How a verification ends. -/
inductive Ending where
  | faulty
  /-- There is no client of the authority. -/
  | clientless (detail : String)
  /-- The commit cannot be read. -/
  | commitless (fault : Fault)
  /-- The allowlist cannot be read. -/
  | listless (commit : Commit) (fault : Fault)
  /-- The gate decides. -/
  | decided (client : Authority.Client) (commit : Commit) (allowlist : Allowlist)

section

variable (w : Surroundings) (s : Settings)

/-- The allowlist to apply: the one in the file, or an empty one when there is no file. -/
def allowlistOf : Except Fault Allowlist :=
  match s.allowlist with
  | none => .ok .empty
  | some path => Allowlist.ofFile path (w.contentOf path)

/-- The gate that decides. -/
def gateOf (client : Authority.Client) : Gate := ⟨s.repository, w.authority client, w.now⟩

/-- The way in which a verification ends. Each one is looked for after those before it. -/
inductive Ends : Ending → Prop
  | faulty (h : s.faults ≠ []) : Ends .faulty
  | clientless {detail : String} (sound : s.faults = [])
      (h : Authority.Client.ofConfig s.authority = .error (.settings detail)) : Ends (.clientless detail)
  | commitless {client : Authority.Client} {fault : Fault} (sound : s.faults = [])
      (made : Authority.Client.ofConfig s.authority = .ok client)
      (h : w.commitAt s.reference = .error fault) : Ends (.commitless fault)
  | listless {client : Authority.Client} {commit : Commit} {fault : Fault} (sound : s.faults = [])
      (made : Authority.Client.ofConfig s.authority = .ok client)
      (found : w.commitAt s.reference = .ok commit) (h : allowlistOf w s = .error fault) :
    Ends (.listless commit fault)
  | decided {client : Authority.Client} {commit : Commit} {allowlist : Allowlist}
      (sound : s.faults = []) (made : Authority.Client.ofConfig s.authority = .ok client)
      (found : w.commitAt s.reference = .ok commit) (h : allowlistOf w s = .ok allowlist) :
    Ends (.decided client commit allowlist)

/-- What a verification that ends in some way has done, and what it reports. -/
def Shows : Ending → Account → Prop
  | .faulty, a => a.acts = [] ∧ a.Stops 2 none s.faults
  | .clientless detail, a => a.acts = [] ∧ a.Stops 2 none [.settings detail]
  | .commitless fault, a => a.acts = [.readCommit s.reference] ∧ a.Stops 1 none [fault]
  | .listless commit fault, a =>
    (∃ path, s.allowlist = some path ∧ a.acts = [.readCommit s.reference,
      .began commit.hash commit.committer.email, .readAllowlist path]) ∧ a.Stops 1 (some commit) [fault]
  | .decided client commit allowlist, a =>
    let allowed := allowlist.resolve s.repository
    let run := (gateOf w s client).runUntil w.cancelled commit allowed
    a.report = run.outcome.map .decided ∧ a.marks = run.marks ∧
      ∀ o, run.outcome = some o → o.Settles commit allowed.faults

/-- There is always exactly one way. -/
theorem existsUnique_ends : ∃! e, Ends w s e := by
  by_cases sound : s.faults = []
  · cases made : Authority.Client.ofConfig s.authority with
    | error fault =>
      obtain ⟨detail, rfl⟩ := Authority.Client.exists_settings_of_ofConfig made
      refine ⟨_, .clientless sound made, fun e ends => ?_⟩
      cases ends <;> simp_all
    | ok client =>
      cases found : w.commitAt s.reference with
      | error fault =>
        refine ⟨_, .commitless sound made found, fun e ends => ?_⟩
        cases ends <;> simp_all
      | ok commit =>
        cases read : allowlistOf w s with
        | error fault =>
          refine ⟨_, .listless sound made found read, fun e ends => ?_⟩
          cases ends <;> simp_all
        | ok allowlist =>
          refine ⟨_, .decided sound made found read, fun e ends => ?_⟩
          cases ends <;> simp_all
  · refine ⟨_, .faulty sound, fun e ends => ?_⟩
    cases ends <;> simp_all

end

variable {w : Surroundings} {s : Settings}

/-! ## The account of each end -/

theorem shows_faulty (h : s.faults ≠ []) : Shows w s .faulty (run w s) := by
  cases ho : Outcome.failAll s.repository s.faults with
  | none => exact absurd (Outcome.failAll_eq_none_iff.1 ho) h
  | some o =>
    rw [run, ho]
    exact ⟨rfl, Account.stops_ended (Outcome.failsFor_failAll ho)⟩

/-- A verification whose settings are sound goes as far as the client. -/
theorem run_of_sound (sound : s.faults = []) :
    run w s =
      match Authority.Client.ofConfig s.authority with
      | .ok client => withClient w s client
      | .error fault => .ended (.refused (.fail s.repository none [] fault.whenMade)) := by
  unfold run
  split
  · rename_i o failed
    cases (Outcome.failAll_eq_none_iff.2 sound).symm.trans failed
  · rfl

theorem shows_clientless {detail : String} (sound : s.faults = [])
    (h : Authority.Client.ofConfig s.authority = .error (.settings detail)) :
    Shows w s (.clientless detail) (run w s) := by
  rw [run_of_sound sound, h]
  exact ⟨rfl, Account.stops_ended (Outcome.failsFor_fail _ _ _)⟩

theorem run_of_client {client : Authority.Client} (sound : s.faults = [])
    (made : Authority.Client.ofConfig s.authority = .ok client) :
    run w s = withClient w s client := by
  rw [run_of_sound sound, made]

theorem shows_commitless {client : Authority.Client} {fault : Fault} (sound : s.faults = [])
    (made : Authority.Client.ofConfig s.authority = .ok client)
    (h : w.commitAt s.reference = .error fault) : Shows w s (.commitless fault) (run w s) := by
  rw [run_of_client sound made, withClient, h]
  exact ⟨rfl, .after (by simp [Act.mark?]) (Account.stops_ended (Outcome.failsFor_fail _ _ _))⟩

/-- What has been done once there is a commit. -/
def begun (s : Settings) (commit : Commit) : List Act :=
  [.readCommit s.reference, .began commit.hash commit.committer.email]

theorem run_of_commit {client : Authority.Client} {commit : Commit} (sound : s.faults = [])
    (made : Authority.Client.ofConfig s.authority = .ok client)
    (found : w.commitAt s.reference = .ok commit) :
    run w s = (withCommit w s client commit).after (begun s commit) := by
  rw [run_of_client sound made, withClient, found]
  rfl

/-- The commit's part of a verification, told by the allowlist to apply. -/
theorem withCommit_eq (client : Authority.Client) (commit : Commit) :
    withCommit w s client commit =
      (match allowlistOf w s with
        | .ok allowlist => pass w s client commit allowlist
        | .error fault => .ended (.decided (.fail s.repository (some commit) [] fault))).after
      (s.allowlist.toList.map .readAllowlist) := by
  rw [withCommit, allowlistOf]
  cases s.allowlist with
  | none => rfl
  | some path => cases Allowlist.ofFile path (w.contentOf path) <;> rfl

theorem shows_listless {client : Authority.Client} {commit : Commit} {fault : Fault}
    (sound : s.faults = []) (made : Authority.Client.ofConfig s.authority = .ok client)
    (found : w.commitAt s.reference = .ok commit) (h : allowlistOf w s = .error fault) :
    Shows w s (.listless commit fault) (run w s) := by
  rw [run_of_commit sound made found, withCommit_eq, h]
  refine ⟨?_, .after (by simp [begun, Act.mark?])
    (.after (by simp [Act.mark?]) (Account.stops_ended (Outcome.failsFor_fail _ _ _)))⟩
  -- without a file there would have been nothing that fails
  cases file : s.allowlist with
  | none =>
    rw [allowlistOf, file] at h
    cases h
  | some path => exact ⟨path, rfl, rfl⟩

theorem marks_pass (client : Authority.Client) (commit : Commit) (allowlist : Allowlist) :
    (pass w s client commit allowlist).marks =
      ((gateOf w s client).runUntil w.cancelled commit (allowlist.resolve s.repository)).marks := by
  have skipped (entries : List Skipped) : (entries.map Act.skipped).filterMap Act.mark? = [] := by
    simp [Act.mark?]
  have marked (marks : List Mark) : (marks.map Act.marked).filterMap Act.mark? = marks := by
    simp [List.filterMap_map, Function.comp_def, Act.mark?]
  rw [Account.marks, pass, List.filterMap_append, skipped, marked]
  rfl

theorem shows_decided {client : Authority.Client} {commit : Commit} {allowlist : Allowlist}
    (sound : s.faults = []) (made : Authority.Client.ofConfig s.authority = .ok client)
    (found : w.commitAt s.reference = .ok commit) (h : allowlistOf w s = .ok allowlist) :
    Shows w s (.decided client commit allowlist) (run w s) := by
  rw [run_of_commit sound made found, withCommit_eq, h]
  refine ⟨rfl, ?_, fun o ends => ?_⟩
  · rw [Account.marks_after (by simp [begun, Act.mark?]),
      Account.marks_after (by simp [Act.mark?]), marks_pass]
  · obtain ⟨d, polls, -, rfl⟩ := Gate.exists_decision ends
    exact Outcome.settles_report _ _ _ _

/-- Every way of ending shows in the account. -/
theorem shows_of_ends {e : Ending} (ends : Ends w s e) : Shows w s e (run w s) := by
  cases ends with
  | faulty h => exact shows_faulty h
  | clientless sound h => exact shows_clientless sound h
  | commitless sound made h => exact shows_commitless sound made h
  | listless sound made found h => exact shows_listless sound made found h
  | decided sound made found h => exact shows_decided sound made found h

/-! ## Reports -/

/-- Whatever is reported, the exit code, the verdict and the trust source tell the same. -/
theorem isConsistent_of_run {r : Report} (reported : (run w s).report = some r) : r.IsConsistent := by
  obtain ⟨e, ends, -⟩ := existsUnique_ends w s
  have shows := shows_of_ends ends
  cases e with
  | faulty => exact Account.isConsistent_of_stops shows.2 (by decide) reported
  | clientless detail => exact Account.isConsistent_of_stops shows.2 (by decide) reported
  | commitless fault => exact Account.isConsistent_of_stops shows.2 (by decide) reported
  | listless commit fault => exact Account.isConsistent_of_stops shows.2 (by decide) reported
  | decided client commit allowlist =>
    obtain ⟨o, ho, rfl⟩ := Option.map_eq_some_iff.1 (shows.1.symm.trans reported)
    obtain ⟨d, polls, -, rfl⟩ := Gate.exists_decision ho
    exact Report.isConsistent_decided _ _ _ _

/-- Without a report, the gate waits for an answer that never comes, and nobody cancels it. -/
theorem waits_of_run (unreported : (run w s).report = none) :
    ∃ client commit allowlist envelope, Ends w s (.decided client commit allowlist) ∧
      Gate.Reads commit envelope ∧ w.cancelled.arrival? = none ∧
      (w.authority client envelope.issuerKeyId commit.committer.email).arrival? = none := by
  obtain ⟨e, ends, -⟩ := existsUnique_ends w s
  have shows := shows_of_ends ends
  have early {exitCode : Nat} {commit : Option Commit} {faults : List Fault}
      (stops : (run w s).Stops exitCode commit faults) : False := by
    obtain ⟨o, ho, -⟩ := stops.report
    cases unreported.symm.trans ho
  cases e with
  | faulty => exact (early shows.2).elim
  | clientless detail => exact (early shows.2).elim
  | commitless fault => exact (early shows.2).elim
  | listless commit fault => exact (early shows.2).elim
  | decided client commit allowlist =>
    have endless := Option.map_eq_none_iff.1 (shows.1.symm.trans unreported)
    obtain ⟨envelope, -, reads, never, silent⟩ := Gate.waits_of_runUntil endless
    exact ⟨client, commit, allowlist, envelope, ends, reads, never, silent⟩

/-- A client of the authority always answers, whatever the network does. -/
theorem exists_report {latency : Authority.Client → Nat} {replies : Authority.Client → List Http.Reply}
    {policy : Http.Policy}
    (h : w.authority = fun client => client.authority (latency client) (replies client) policy) :
    ∃ r, (run w s).report = some r := by
  rw [← Option.ne_none_iff_exists']
  intro unreported
  obtain ⟨client, commit, allowlist, envelope, -, -, -, silent⟩ := waits_of_run unreported
  rw [h] at silent
  cases silent.symm.trans (Awaited.arrival?_after _ _)

/-- A verification ends in exactly one way, which its account shows. Whatever is reported is consistent.
Nothing is reported only while an authority is waited for that never answers, as a client of the authority
always does. The faults of settings are all that is wrong with them, in the order path, reference, token, base URL,
repository, timeout, which is the order of the fields unless the repository is missing together with the token or
the base URL; each has the exit code that is reported. The faults of the allowlist's entries end no
verification. -/
theorem run_report (w : Surroundings) (s : Settings) :
    (∃! e, Ends w s e) ∧ (∀ e, Ends w s e → Shows w s e (run w s)) ∧
    (∀ r, (run w s).report = some r → r.IsConsistent) ∧
    ((run w s).report = none →
      ∃ client commit allowlist envelope, Ends w s (.decided client commit allowlist) ∧
        Gate.Reads commit envelope ∧ w.cancelled.arrival? = none ∧
        (w.authority client envelope.issuerKeyId commit.committer.email).arrival? = none) ∧
    (∀ (latency : Authority.Client → Nat) (replies : Authority.Client → List Http.Reply) (policy : Http.Policy),
      (w.authority = fun client => client.authority (latency client) (replies client) policy) →
        ∃ r, (run w s).report = some r) ∧
    (∀ f, f ∈ s.faults ↔ s.IsWrong f) ∧ s.faults.Sublist Settings.order ∧ s.faults.Perm s.faultsByField ∧
    (s.faults = s.faultsByField ↔ s.repository ≠ "" ∨ s.token ≠ "" ∧ s.baseUrl ≠ "") ∧
    (∀ f ∈ s.faults, f.exitCode = 2) ∧
    ∀ allowed : Applied, ∀ f ∈ allowed.faults, f.isFatal = false :=
  ⟨existsUnique_ends w s, fun _ => shows_of_ends, fun _ => isConsistent_of_run, waits_of_run,
    fun _ _ _ => exists_report, fun _ => Settings.mem_faults_iff, s.faults_sublist_order, s.faults_perm, s.faults_eq_faultsByField_iff,
    fun _ => Settings.exitCode_of_mem_faults, fun _ _ => Applied.isFatal_of_mem_faults⟩

/-- Without a token and a repository, the token is reported first, though the repository is the earlier
field. -/
theorem run_report_unordered :
    let s : Settings := ⟨".", "HEAD", "", "", "https://api.byndid.com/key-mgmt", none, 30⟩
    let w : Surroundings := ⟨fun r => .error (.commitAccess ("unknown revision " ++ r)),
      fun _ => .error .notFound, fun _ _ _ => .never, .never, 0⟩
    ∃ r, (run w s).report = some r ∧ r.outcome.errors ≠ s.faultsByField.map Fault.message := by
  intro s w
  refine ⟨_, rfl, ?_⟩
  decide +kernel

end Verification

end CommitGate

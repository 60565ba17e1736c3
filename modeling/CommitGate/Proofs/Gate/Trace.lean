import CommitGate.Proofs.Gate.Reach

/-! # What a run tells

The events of a run that ends are a trace of the grammar `Gate.Trace`. A stage tells that it has been
entered and what it has found; then the next stage follows (`Gate.Next`), or the run is finished
(`Gate.Last`). Read off the grammar:

* `Trace.stages_eq`: the stages follow in order from the first one, none left out;
* `Trace.exists_body`: the trace has one event `finished`, its last one;
* `Trace.last_stage`: a PASS comes from the stage that gives its trust source.

`journal_tells` puts this together: the journal of any runs is the concatenation of what they have told,
and every run that ends has told a trace.
-/

namespace CommitGate

/-- The stage that gives a PASS for a trust source. -/
def TrustSource.stage : TrustSource → Stage
  | .emailAddress _ => .checkEmail
  | .thirdPartyKey _ => .checkThirdPartyKeys
  | .managedKey _ _ => .verifySignature

/-- A stage and those after it. -/
def Stage.onward : Stage → List Stage
  | .checkEmail => Stage.all
  | .checkThirdPartyKeys => Stage.all.drop 1
  | .requireSignature => Stage.all.drop 2
  | .parseSignature => Stage.all.drop 3
  | .authorize => Stage.all.drop 4
  | .verifySignature => Stage.all.drop 5

/-- The event that ends a run with an outcome. -/
def Outcome.closing (o : Outcome) : Event := .finished o.passed o.description

/-- The event is what a stage has found: neither its beginning nor the end of the run. -/
def Event.IsFinding (e : Event) : Prop :=
  e.stage? = none ∧ ∀ passed description, e ≠ .finished passed description

/-- The events of a list of marks. -/
def eventsOf (marks : List Mark) : List Event := marks.filterMap Mark.event?

namespace Gate

/-! ## The grammar -/

section

variable (g : Gate) (cancelled : Awaited Unit) (commit : Commit) (allowed : Applied) (o : Outcome)

/-- The stage finds this, and the run goes on with the next stage. -/
inductive Next : Stage → List Event → Stage → Prop
  | emailUnknown (h : Email.isAllowed commit.committer.email allowed.emails = false) :
    Next .checkEmail [.emailChecked commit.committer.email false] .checkThirdPartyKeys
  | keyUnknown (h : listedSigner? g commit allowed = none) :
    Next .checkThirdPartyKeys [.keysChecked allowed.keys.length none commit.isSigned]
      .requireSignature
  | signed (h : commit.isSigned = true) : Next .requireSignature [] .parseSignature
  | readable {envelope : Envelope} (h : Reads commit envelope) : Next .parseSignature [] .authorize
  | authorized {envelope : Envelope} {answer : Authorization} {polls : Nat}
      (hr : Reads commit envelope) (h : Takes g cancelled commit envelope (.ok answer) polls)
      (ha : answer.authorized = true) :
    Next .authorize [.asking envelope.issuerKeyId commit.committer.email,
      .answered envelope.issuerKeyId true] .verifySignature

/-- The stage finds this, and the run ends with the outcome. -/
inductive Last : Stage → List Event → Prop
  | emailAllowed (h : Email.isAllowed commit.committer.email allowed.emails = true)
      (named : o.source = some (.emailAddress commit.committer.email)) :
    Last .checkEmail [.emailChecked commit.committer.email true]
  | keyFound {signer : Signer} (h : listedSigner? g commit allowed = some signer)
      (named : o.source = some (.thirdPartyKey signer)) :
    Last .checkThirdPartyKeys
      [.keysChecked allowed.keys.length (some signer.keyId) commit.isSigned]
  | unsigned (h : commit.isSigned = false) (failed : o.passed = false) : Last .requireSignature []
  | unreadable (h : ∀ envelope, ¬ Reads commit envelope) (failed : o.passed = false) :
    Last .parseSignature []
  /-- The authority's answer is a fault, or the cancellation comes first. -/
  | unanswered {envelope : Envelope} (hr : Reads commit envelope)
      (h : ∀ answer polls, ¬ Takes g cancelled commit envelope (.ok answer) polls)
      (failed : o.passed = false) :
    Last .authorize [.asking envelope.issuerKeyId commit.committer.email]
  | denied {envelope : Envelope} {answer : Authorization} {polls : Nat}
      (hr : Reads commit envelope) (h : Takes g cancelled commit envelope (.ok answer) polls)
      (ha : answer.authorized = false) (failed : o.passed = false) :
    Last .authorize [.asking envelope.issuerKeyId commit.committer.email,
      .answered envelope.issuerKeyId false]
  | verified {envelope : Envelope} (hr : Reads commit envelope)
      (named : o.passed = true →
        o.source = some (.managedKey envelope.issuerKeyId commit.committer.email)) :
    Last .verifySignature []

/-- The traces that begin with a stage and end with the outcome. -/
inductive Trace : Stage → List Event → Prop
  | last {s : Stage} {found : List Event} (ends : Last g cancelled commit allowed o s found) :
    Trace s (.entered s :: (found ++ [o.closing]))
  | next {s s' : Stage} {found rest : List Event} (goes : Next g cancelled commit allowed s found s')
      (after : Trace s' rest) : Trace s (.entered s :: (found ++ rest))

end

variable {g : Gate} {cancelled : Awaited Unit} {commit : Commit} {allowed : Applied} {o : Outcome}

/-! ## Reading the grammar -/

theorem Next.onward_eq {s s' : Stage} {found : List Event}
    (goes : Next g cancelled commit allowed s found s') : s.onward = s :: s'.onward := by
  cases goes <;> rfl

theorem Next.isFinding {s s' : Stage} {found : List Event}
    (goes : Next g cancelled commit allowed s found s') : ∀ e ∈ found, e.IsFinding := by
  cases goes <;> simp [Event.IsFinding, Event.stage?]

theorem Last.isFinding {s : Stage} {found : List Event}
    (ends : Last g cancelled commit allowed o s found) : ∀ e ∈ found, e.IsFinding := by
  cases ends <;> simp [Event.IsFinding, Event.stage?]

theorem stages_of_isFinding {found : List Event} (h : ∀ e ∈ found, e.IsFinding) :
    Event.stages found = [] :=
  List.filterMap_eq_nil_iff.2 fun e he => (h e he).1

/-- What a stage tells begins with the stage and has no other. -/
theorem stages_told (s : Stage) {found rest : List Event} (h : ∀ e ∈ found, e.IsFinding) :
    Event.stages (.entered s :: (found ++ rest)) = s :: Event.stages rest := by
  have none : found.filterMap Event.stage? = [] := stages_of_isFinding h
  simp [Event.stages, Event.stage?, none]

theorem stages_closing : Event.stages [o.closing] = [] := rfl

/-- The stages of a trace begin with its first one and follow in order, none left out. -/
theorem Trace.stages_eq {s : Stage} {events : List Event}
    (trace : Trace g cancelled commit allowed o s events) :
    Event.stages events ≠ [] ∧ Event.stages events <+: s.onward := by
  -- on the trace: each production adds its own stage in front of those of the rest
  induction trace with
  | last ends =>
    rw [stages_told _ ends.isFinding, stages_closing]
    refine ⟨List.cons_ne_nil _ _, ?_⟩
    cases ends <;> exact List.cons_prefix_cons.2 ⟨rfl, List.nil_prefix⟩
  | next goes after ih =>
    rw [stages_told _ goes.isFinding, goes.onward_eq]
    exact ⟨List.cons_ne_nil _ _, List.cons_prefix_cons.2 ⟨rfl, ih.2⟩⟩

/-- The last event of a trace, and no other, finishes the run with the outcome. -/
theorem Trace.exists_body {s : Stage} {events : List Event}
    (trace : Trace g cancelled commit allowed o s events) :
    ∃ body, events = body ++ [o.closing] ∧
      ∀ passed description, .finished passed description ∉ body := by
  -- neither what a stage finds nor its beginning finishes the run
  have plain : ∀ {found : List Event}, (∀ e ∈ found, e.IsFinding) →
      ∀ s passed description, .finished passed description ∉ Event.entered s :: found := by
    intro found h s passed description hm
    rcases List.mem_cons.1 hm with hm | hm
    · cases hm
    · exact (h _ hm).2 passed description rfl
  induction trace with
  | last ends => exact ⟨_, rfl, plain ends.isFinding _⟩
  | next goes after ih =>
    obtain ⟨body, rfl, only⟩ := ih
    rename_i s s' found
    refine ⟨.entered s :: (found ++ body), by simp, ?_⟩
    intro passed description hm
    rw [← List.cons_append, List.mem_append] at hm
    rcases hm with hm | hm
    · exact plain goes.isFinding _ passed description hm
    · exact only passed description hm

/-- A PASS comes from the stage that gives its trust source. -/
theorem Trace.last_stage {s : Stage} {events : List Event}
    (trace : Trace g cancelled commit allowed o s events) (passes : o.passed = true) :
    ∃ source, o.source = some source ∧ (Event.stages events).getLast? = some source.stage := by
  induction trace with
  | last ends =>
    rw [stages_told _ ends.isFinding, stages_closing]
    cases ends with
    | emailAllowed h named => exact ⟨_, named, rfl⟩
    | keyFound h named => exact ⟨_, named, rfl⟩
    | verified hr named => exact ⟨_, named passes, rfl⟩
    -- the other ends of a run are failures
    | unsigned h failed => cases failed.symm.trans passes
    | unreadable h failed => cases failed.symm.trans passes
    | unanswered hr h failed => cases failed.symm.trans passes
    | denied hr h ha failed => cases failed.symm.trans passes
  | next goes after ih =>
    obtain ⟨source, named, hl⟩ := ih
    refine ⟨source, named, ?_⟩
    rw [stages_told _ goes.isFinding, List.getLast?_cons, hl]
    rfl

/-! ## A run tells a trace -/

theorem eventsOf_append (marks marks' : List Mark) :
    eventsOf (marks ++ marks') = eventsOf marks ++ eventsOf marks' :=
  List.filterMap_append

/-- The keys that have not verified the signature are not told. -/
theorem eventsOf_failureMarks (failures : List (Nat × Keyring.Fault)) :
    eventsOf (failureMarks failures) = [] := by
  simp [eventsOf, failureMarks, Mark.event?]

/-- Asking is told, whether or not the authority is called. -/
theorem eventsOf_askedMarks (envelope : Envelope) :
    eventsOf (askedMarks cancelled commit envelope) =
      [.asking envelope.issuerKeyId commit.committer.email] := by
  unfold askedMarks
  split <;> rfl

theorem eventsOf_entering (s : Stage) (marks : List Mark) (polls : Nat) (c : Course) :
    eventsOf (Course.entering s marks polls c).marks =
      .entered s :: (eventsOf marks ++ eventsOf c.marks) := by
  simp [eventsOf, Course.entering, Mark.event?]

/-- Two things that the authority and the cancellation can do exclude each other. -/
theorem Cancels.not_takes {envelope : Envelope} {m n : Nat} {answer : Except Fault Authorization}
    (h : Cancels g cancelled commit envelope m) : ¬ Takes g cancelled commit envelope answer n := by
  rintro ⟨arrives, absent⟩
  have := absent m () h.1
  have := h.2 n answer arrives
  omega

/-- What a step tells ends the run in its stage or goes on with the next one. -/
theorem Step.tells {p q : Position} {marks : List Mark} {polls : Nat} {s : Stage}
    (goes : Step g cancelled commit allowed p marks polls q)
    (known : Reached g cancelled commit allowed p) (begins : p.stage? = some s) :
    (∃ d, q = .decided d ∧
      Last g cancelled commit allowed (report g commit allowed d) s (eventsOf marks)) ∨
    ∃ s', q.stage? = some s' ∧ Next g cancelled commit allowed s (eventsOf marks) s' := by
  -- each kind of step ends its stage in one of the ways that the grammar has for it
  cases goes with
  | emailAllowed h =>
    cases begins
    exact .inl ⟨_, rfl, .emailAllowed h rfl⟩
  | emailUnknown h =>
    cases begins
    exact .inr ⟨_, rfl, .emailUnknown h⟩
  | keyFound h =>
    cases begins
    rw [eventsOf_append, eventsOf_failureMarks]
    exact .inl ⟨_, rfl, .keyFound (by simp [listedSigner?, h, ThirdParty.Check.signer?]) rfl⟩
  | keyUnknown h hn =>
    cases begins
    rw [eventsOf_append, eventsOf_failureMarks]
    exact .inr ⟨_, rfl, .keyUnknown (by simpa [listedSigner?, h] using hn)⟩
  | unsigned h =>
    cases begins
    exact .inl ⟨_, rfl, .unsigned h rfl⟩
  | signed h =>
    cases begins
    exact .inr ⟨_, rfl, .signed h⟩
  | unreadable hs h =>
    cases begins
    refine .inl ⟨_, rfl, .unreadable ?_ rfl⟩
    rintro envelope ⟨signature, hs', h'⟩
    obtain rfl := Option.some.inj (hs.symm.trans hs')
    cases h.symm.trans h'
  | readable hs h =>
    cases begins
    exact .inr ⟨_, rfl, .readable ⟨_, hs, h⟩⟩
  | cancelled h =>
    cases begins
    rw [eventsOf_askedMarks]
    exact .inl ⟨_, rfl, .unanswered known.2 (fun _ _ => h.not_takes) rfl⟩
  | unanswered h =>
    cases begins
    rw [eventsOf_askedMarks]
    refine .inl ⟨_, rfl, .unanswered known.2 ?_ rfl⟩
    -- the authority gives one answer, and this one is a fault
    intro answer n h'
    cases h.1.symm.trans h'.1
  | denied h ha =>
    cases begins
    rw [eventsOf_append, eventsOf_askedMarks]
    exact .inl ⟨_, rfl, .denied known.2 h ha rfl⟩
  | authorized h ha =>
    cases begins
    rw [eventsOf_append, eventsOf_askedMarks]
    exact .inr ⟨_, rfl, .authorized known.2 h ha⟩
  | @verified envelope answer =>
    cases begins
    refine .inl ⟨_, rfl, .verified known.2.1 ?_⟩
    cases hd : verifySignature g.now commit envelope answer with
    | error fault =>
      intro passes
      cases passes
    | ok source =>
      intro _
      obtain ⟨signer, -, rfl⟩ := map_eq_ok_iff.1 hd
      rfl

/-- From a position where a stage begins, a walk that ends tells a trace. -/
theorem Walk.trace {steps : Nat} {p : Position} {c : Course} {d : Decision} {polls : Nat}
    (walk : Walk g cancelled commit allowed steps p c)
    (known : Reached g cancelled commit allowed p) (ends : c.decision = some (d, polls))
    {s : Stage} (begins : p.stage? = some s) :
    Trace g cancelled commit allowed (report g commit allowed d) s
      (eventsOf c.marks ++ [(report g commit allowed d).closing]) := by
  -- on the walk from its end, so that the trace of what follows is known when a stage is put before it
  induction walk generalizing polls s with
  | decided d' => cases begins
  | endless never silent => cases ends
  | onward begins' goes rest ih =>
    obtain rfl := Option.some.inj (begins.symm.trans begins')
    obtain ⟨⟨d', n⟩, ends', heq⟩ := Option.map_eq_some_iff.1 ends
    obtain rfl : d' = d := congrArg Prod.fst heq
    rw [eventsOf_entering]
    rcases goes.tells known begins with ⟨d'', rfl, last⟩ | ⟨s', begins'', next⟩
    · -- the step decides, and nothing comes after a decision
      cases rest with
      | decided =>
        obtain rfl : d'' = d' := congrArg Prod.fst (Option.some.inj ends')
        simpa [Course.decided, eventsOf] using Trace.last last
      | onward absurd' => cases absurd'
    · have after := ih (reached_step _ _ _ _ goes known) ends' begins''
      simpa using Trace.next next after

/-- A run that ends tells a trace from the first stage on. -/
theorem trace_of_runUntil (ends : (g.runUntil cancelled commit allowed).outcome = some o) :
    Trace g cancelled commit allowed o .checkEmail (g.runUntil cancelled commit allowed).events := by
  obtain ⟨steps, walk⟩ := walk_checkEmail g cancelled commit allowed
  obtain ⟨d, polls, hd, rfl⟩ := exists_decision ends
  have trace := walk.trace trivial hd rfl
  rw [runUntil_of_decided hd, Run.events, List.filterMap_append]
  exact trace

end Gate

/-! ## Journals -/

/-- What a run of a gate is given. The authority may answer every run differently. -/
structure Visit where
  gate : Gate
  cancelled : Awaited Unit
  commit : Commit
  allowed : Applied

namespace Visit

/-- The run. -/
def run (v : Visit) : Run := v.gate.runUntil v.cancelled v.commit v.allowed

/-- The events are what the run tells when it ends with the outcome. -/
structure Tells (v : Visit) (o : Outcome) (events : List Event) : Prop where
  trace : Gate.Trace v.gate v.cancelled v.commit v.allowed o .checkEmail events
  begun : Event.stages events ≠ []
  ordered : Event.stages events <+: Stage.all
  unrepeated : (Event.stages events).Nodup
  /-- The run takes at most six steps. -/
  steps : ∃ steps ≤ 6, Gate.Walk v.gate v.cancelled v.commit v.allowed steps .checkEmail
    (v.gate.checkEmail v.cancelled v.commit v.allowed)
  /-- It is finished once, by the last event. -/
  finished : ∃ body, events = body ++ [.finished o.passed o.description] ∧
    ∀ passed description, .finished passed description ∉ body
  /-- A PASS comes from the stage that gives its trust source. -/
  passing : o.passed = true → ∃ source, o.source = some source ∧
    (Event.stages events).getLast? = some source.stage

theorem tells_of_ends {v : Visit} {o : Outcome} (ends : v.run.outcome = some o) :
    v.Tells o v.run.events := by
  have trace := Gate.trace_of_runUntil ends
  obtain ⟨steps, walk⟩ := Gate.walk_checkEmail v.gate v.cancelled v.commit v.allowed
  have ordered : Event.stages v.run.events <+: Stage.all := trace.stages_eq.2
  exact {
    trace := trace
    begun := trace.stages_eq.1
    ordered := ordered
    unrepeated := ordered.sublist.nodup (by decide)
    steps := ⟨steps, walk.steps_le, walk⟩
    finished := trace.exists_body
    passing := trace.last_stage }

end Visit

/-- The journal of some runs, one after the other. -/
def Journal.ofVisits (visits : List Visit) : Journal :=
  visits.foldl (fun j v => j.add v.run) .empty

/-- More runs are put down behind what a journal has. -/
theorem Journal.events_foldl_add (j : Journal) (visits : List Visit) :
    (visits.foldl (fun j v => j.add v.run) j).events =
      j.events ++ (visits.map fun v => v.run.events).flatten := by
  induction visits generalizing j with
  | nil => simp
  | cons v rest ih =>
    rw [List.foldl_cons, ih]
    simp [Journal.add]

/-- The journal of any runs is the concatenation of their events in order, and each run that ends has
told one trace of the grammar. -/
theorem journal_tells (visits : List Visit) :
    (Journal.ofVisits visits).events = (visits.map fun v => v.run.events).flatten ∧
      ∀ v ∈ visits, ∀ o, v.run.outcome = some o → v.Tells o v.run.events := by
  constructor
  · exact Journal.events_foldl_add .empty visits
  · intro v _ o ends
    exact Visit.tells_of_ends ends

end CommitGate

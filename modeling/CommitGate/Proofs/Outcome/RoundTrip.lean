import CommitGate.Program
import CommitGate.Proofs.Outcome.Reading
import CommitGate.Proofs.Outcome.Written

/-! # The round trip of an outcome

What the program builds is written, on one line or over several, and read back as the same outcome, as long as
the dates of author and committer have a year that the reader knows (`Outcome.parse_written`). The program
accepts moments by their second alone, so there are outcomes with other local dates: nothing is written of them, and
the text that the calendar gives for them is not read either (`Outcome.parse_written_undated`).

Scope limit: the signature and the message of a commit are not part of an outcome.
-/

namespace CommitGate

open Json Json.Decode

/-! ## Every text of an outcome -/

theorem Outcome.spelled_render (o : Outcome) : Utf8.ofString o.render = Utf8.encode o.toJson.chars := by
  simp [Outcome.render, Json.Value.render, Utf8.ofString]

/-- A line is read as the outcome that its timestamps allow. -/
theorem Outcome.parse_render (o : Outcome) : (parse o.render).toOption = o.reread := by
  have read := run_spelled (yields_outcome o) (by decide) (spells_chars o.toJson) Reader.Blank.nil
    Reader.Blank.nil
  rwa [List.nil_append, List.append_nil, ← spelled_render] at read

/-- So is what is printed, with the line feed behind it. -/
theorem Outcome.parse_printed (pretty : Bool) (o : Outcome) :
    (parse (Program.printed pretty o)).toOption = o.reread := by
  have feed : Reader.Blank [0x0A] := fun b hb => by
    rw [List.mem_singleton.1 hb]
    rfl
  cases pretty with
  | false =>
    have written : Utf8.ofString (Program.printed false o) = [] ++ (Utf8.encode o.toJson.chars ++ [0x0A]) := by
      simp [Program.printed, Outcome.render, Json.Value.render, Utf8.ofString, Utf8.encodeChar]
    rw [parse, written]
    exact run_spelled (yields_outcome o) (by decide) (spells_chars o.toJson) Reader.Blank.nil feed
  | true =>
    have written : Utf8.ofString (Program.printed true o) =
        [] ++ (Utf8.encode (o.toJson.prettyChars 0) ++ [0x0A]) := by
      simp [Program.printed, Json.Value.pretty, Utf8.ofString, Utf8.encodeChar]
    rw [parse, written]
    exact run_spelled (yields_outcome o) (by decide) (spells_prettyChars 0 o.toJson) Reader.Blank.nil feed

/-! ## Outcomes that the program builds -/

/-- The snapshot, if there is one, is that of a commit that was decoded. -/
def IsDecoded (commit : Option Commit) : Prop := ∀ c ∈ commit, ∃ hash raw, Commit.ofRaw hash raw = .ok c

/-- An outcome that one of the three functions gives for a commit that was decoded, or for none. -/
inductive Outcome.IsBuilt : Outcome → Prop
  | pass (repository : String) {commit : Option Commit} (decoded : IsDecoded commit) (source : TrustSource)
    (warnings : List Fault) : IsBuilt (.pass repository commit source warnings)
  | fail (repository : String) {commit : Option Commit} (decoded : IsDecoded commit) (prior : List Fault)
    (fatal : Fault) : IsBuilt (.fail repository commit prior fatal)
  | failAll {repository : String} {faults : List Fault} {o : Outcome}
    (h : Outcome.failAll repository faults = some o) : IsBuilt o

theorem Timestamp.IsNoted.reread_eq {t : Timestamp} (h : t.IsNoted) :
    t.reread = if t.IsDatable then some t else none := by
  rw [Timestamp.reread, Timestamp.parse_zuluText h]
  split <;> rfl

theorem Snapshot.reread_eq {s : Snapshot} (author : s.author.timestamp.IsNoted)
    (committer : s.committer.timestamp.IsNoted) : s.reread = if s.IsDatable then some s else none := by
  simp only [Snapshot.reread, Person.reread, author.reread_eq, committer.reread_eq, Snapshot.IsDatable]
  by_cases ha : s.author.timestamp.IsDatable <;> by_cases hc : s.committer.timestamp.IsDatable <;>
    simp [ha, hc]

/-- A decoded commit has moments that are noted in whole seconds and minutes. -/
theorem reread_snapshot {hash : String} {raw : Bytes} {c : Commit} (h : Commit.ofRaw hash raw = .ok c) :
    c.snapshot.reread = if c.snapshot.IsDatable then some c.snapshot else none := by
  obtain ⟨o, payload, author, committer, -, -, ha, hc, rfl⟩ := Commit.ofRaw_eq_ok_iff.1 h
  obtain ⟨dated, rfl⟩ := Commit.personOf_eq_ok_iff.1 ha
  obtain ⟨dated', rfl⟩ := Commit.personOf_eq_ok_iff.1 hc
  exact Snapshot.reread_eq (Commit.Identity.isNoted_person dated) (Commit.Identity.isNoted_person dated')

theorem Outcome.IsBuilt.commit {o : Outcome} (h : o.IsBuilt) :
    ∃ commit, IsDecoded commit ∧ o.commit = commit.map Commit.snapshot := by
  cases h with
  | pass repository decoded source warnings => exact ⟨_, decoded, rfl⟩
  | fail repository decoded prior fatal => exact ⟨_, decoded, rfl⟩
  | failAll h =>
    obtain ⟨last, -, rfl⟩ := Option.map_eq_some_iff.1 h
    exact ⟨none, fun c hc => (Option.not_mem_none c hc).elim, rfl⟩

theorem Outcome.IsBuilt.reread_eq {o : Outcome} (h : o.IsBuilt) :
    o.reread = if o.IsDatable then some o else none := by
  obtain ⟨commit, decoded, published⟩ := h.commit
  cases commit with
  | none =>
    have datable : o.IsDatable := fun s hs => by
      rw [published] at hs
      cases hs
    rw [Outcome.reread, published, if_pos datable]
    rfl
  | some c =>
    obtain ⟨hash, raw, accepted⟩ := decoded c rfl
    have datable : o.IsDatable ↔ c.snapshot.IsDatable := by
      simp [Outcome.IsDatable, published]
    rw [Outcome.reread, published]
    simp only [Option.map_some, reread_snapshot accepted, datable]
    split
    · cases o
      cases published
      rfl
    · rfl

/-- A text that is written if the reader knows the years, and that it then reads, is an outcome written and read. -/
theorem Outcome.map_parse_eq {o : Outcome} {text : String}
    (read : (parse text).toOption = if o.IsDatable then some o else none) :
    (if o.isWritable then some text else none).map parse = if o.IsDatable then some (.ok o) else none := by
  simp only [isWritable_iff]
  by_cases datable : o.IsDatable
  · rw [if_pos datable] at read ⊢
    rw [if_pos datable, Option.map_some, toOption_eq_some_iff.1 read]
  · rw [if_neg datable, if_neg datable, Option.map_none]

/-- What is built is written and read back if the reader knows the years. Else nothing is written, and the text that
the calendar gives for the outcome is refused. -/
theorem Outcome.parse_written {o : Outcome} (built : o.IsBuilt) :
    (o.written?.map parse = if o.IsDatable then some (.ok o) else none) ∧
      (∀ pretty, (Program.printed? pretty o).map parse = if o.IsDatable then some (.ok o) else none) ∧
      (parse o.render).toOption = (if o.IsDatable then some o else none) ∧
      ∀ pretty, (parse (Program.printed pretty o)).toOption = if o.IsDatable then some o else none := by
  have line : (parse o.render).toOption = if o.IsDatable then some o else none := by
    rw [parse_render, built.reread_eq]
  have printed : ∀ pretty,
      (parse (Program.printed pretty o)).toOption = if o.IsDatable then some o else none := fun pretty => by
    rw [parse_printed, built.reread_eq]
  exact ⟨map_parse_eq line, fun pretty => map_parse_eq (printed pretty), line, printed⟩

/-- The FAIL for a commit without a signature. -/
def unsignedOutcome (c : Commit) : Outcome := .fail "acme/core" (some c) [] .unsigned

theorem isBuilt_unsignedOutcome {hash : String} {raw : Bytes} {c : Commit}
    (h : Commit.ofRaw hash raw = .ok c) : (unsignedOutcome c).IsBuilt := by
  refine .fail "acme/core" (fun c' same => ?_) [] .unsigned
  obtain rfl := Option.some.inj same
  exact ⟨hash, raw, h⟩

theorem isDatable_unsignedOutcome {c : Commit} :
    (unsignedOutcome c).IsDatable ↔ c.snapshot.IsDatable := by
  simp [Outcome.IsDatable, unsignedOutcome, Outcome.fail]

/-- With an offset of several hours and minutes. -/
theorem Outcome.parse_written_zoned :
    ∃ c, Commit.ofRaw "abc123" (rawAt "1700000000 -0930") = .ok c ∧ (unsignedOutcome c).IsBuilt ∧
      (unsignedOutcome c).written?.map parse = some (.ok (unsignedOutcome c)) := by
  obtain ⟨c, accepted, datable⟩ := exists_dated
  have read := (parse_written (isBuilt_unsignedOutcome accepted)).1
  rw [if_pos (isDatable_unsignedOutcome.2 datable)] at read
  exact ⟨c, accepted, isBuilt_unsignedOutcome accepted, read⟩

theorem Outcome.IsBuilt.parse_ne {o : Outcome} (built : o.IsBuilt) (undated : ¬ o.IsDatable) :
    parse o.render ≠ .ok o := by
  intro read
  have failed := parse_render o
  rw [built.reread_eq, if_neg undated, read] at failed
  cases failed

/-- The commit is accepted, and its outcome is neither written nor, if one writes it by the calendar, read. -/
theorem Outcome.parse_written_undated :
    ∃ c, Commit.ofRaw "abc123" (rawAt "8210266876799 +0100") = .ok c ∧ (unsignedOutcome c).IsBuilt ∧
      (unsignedOutcome c).written? = none ∧ (∀ pretty, Program.printed? pretty (unsignedOutcome c) = none) ∧
      parse (unsignedOutcome c).render ≠ .ok (unsignedOutcome c) := by
  obtain ⟨c, accepted, undated⟩ := exists_undated
  have built := isBuilt_unsignedOutcome accepted
  have unknown : ¬(unsignedOutcome c).IsDatable := fun datable => undated (isDatable_unsignedOutcome.1 datable)
  have unwritable : ¬(unsignedOutcome c).isWritable = true := fun h => unknown (isWritable_iff.1 h)
  exact ⟨c, accepted, built, if_neg unwritable, fun _ => if_neg unwritable, built.parse_ne unknown⟩

end CommitGate

import CommitGate.Outcome.Basic
import CommitGate.Proofs.Commit.Acceptance
import CommitGate.Proofs.Except
import CommitGate.Proofs.Timestamp

/-! # Which outcomes are written

A commit is accepted by the seconds of its moments and by their offsets, one apart from the other, but published by
its local dates. What is written of an outcome is its JSON if both local dates have years that the reader knows
(`Outcome.written?_eq`), and nothing otherwise, which some accepted commits come to (`exists_undated`).
-/

namespace CommitGate

/-! ## What is published -/

theorem Person.isSome_published? (p : Person) : p.published?.isSome = p.timestamp.isWritable := by
  rw [published?]
  cases p.timestamp.isWritable <;> rfl

theorem Person.published?_eq (p : Person) :
    p.published? = if p.timestamp.IsDatable then some p.toJson else none := by
  simp only [published?, Timestamp.isWritable_iff]

/-- The reader knows the years of both local dates. -/
def Snapshot.IsDatable (s : Snapshot) : Prop :=
  s.author.timestamp.IsDatable ∧ s.committer.timestamp.IsDatable

instance (s : Snapshot) : Decidable s.IsDatable := inferInstanceAs (Decidable (_ ∧ _))

theorem Snapshot.isWritable_iff {s : Snapshot} : s.isWritable = true ↔ s.IsDatable := by
  rw [isWritable, Bool.and_eq_true, Timestamp.isWritable_iff, Timestamp.isWritable_iff, IsDatable]

theorem Snapshot.published?_eq (s : Snapshot) :
    s.published? = if s.IsDatable then some s.toJson else none := by
  simp only [published?, isWritable_iff]

/-- A snapshot is published exactly if both of its people are. -/
theorem Snapshot.isSome_published? (s : Snapshot) :
    s.published?.isSome = (s.author.published?.isSome && s.committer.published?.isSome) := by
  rw [Person.isSome_published?, Person.isSome_published?, ← isWritable, published?]
  cases s.isWritable <;> rfl

namespace Outcome

/-- The reader knows all years. -/
def IsDatable (o : Outcome) : Prop := ∀ s ∈ o.commit, s.IsDatable

instance (o : Outcome) : Decidable o.IsDatable := inferInstanceAs (Decidable (∀ s ∈ o.commit, s.IsDatable))

theorem isWritable_iff {o : Outcome} : o.isWritable = true ↔ o.IsDatable := by
  rw [isWritable, IsDatable]
  cases o.commit with
  | none => simp
  | some s => simp [Snapshot.isWritable_iff]

theorem written?_eq (o : Outcome) : o.written? = if o.IsDatable then some o.render else none := by
  simp only [written?, isWritable_iff]

end Outcome

/-! ## The moments of a decoded commit -/

theorem Commit.Identity.offset_mod (i : Commit.Identity) : i.zone.offset % 60 = 0 := by
  unfold Commit.Zone.offset
  split <;> omega

theorem Commit.Identity.isNoted_person {i : Commit.Identity} (h : i.IsDated) : i.person.timestamp.IsNoted where
  seconds := Timestamp.inRange_iff.2 h.moment
  nanos := rfl
  offset := h.zone
  minutes := i.offset_mod

/-- A raw commit with the same moment for author and committer, given as seconds and zone. -/
def rawAt (moment : String) : Bytes :=
  Bytes.unlines (["tree 4b825dc642cb6eb9a060e54bf8d69288fbee4904", "author D <d@e> " ++ moment,
    "committer D <d@e> " ++ moment, "", "Add"].map Bytes.ofAscii)

theorem exists_dated : ∃ c, Commit.ofRaw "abc123" (rawAt "1700000000 -0930") = .ok c ∧
    c.snapshot.IsDatable := by
  have computed : (Commit.ofRaw "abc123" (rawAt "1700000000 -0930")).toOption.any
      (fun c => decide c.snapshot.IsDatable) = true := by
    decide +kernel
  obtain ⟨c, accepted, datable⟩ := any_toOption_iff.1 computed
  exact ⟨c, accepted, of_decide_eq_true datable⟩

/-- The last second that is accepted, one hour ahead of UTC, has a local year that the reader does not know. -/
theorem exists_undated : ∃ c, Commit.ofRaw "abc123" (rawAt "8210266876799 +0100") = .ok c ∧
    ¬c.snapshot.IsDatable := by
  have computed : (Commit.ofRaw "abc123" (rawAt "8210266876799 +0100")).toOption.any
      (fun c => !decide c.snapshot.IsDatable) = true := by
    decide +kernel
  obtain ⟨c, accepted, undated⟩ := any_toOption_iff.1 computed
  exact ⟨c, accepted, fun datable => by simp [datable] at undated⟩

end CommitGate

import CommitGate.Outcome.Reader
import CommitGate.Proofs.Json.Content
import CommitGate.Proofs.Timestamp

/-! # Outcomes, written and read

However the JSON of an outcome is spelled, the reader makes the outcome of it that `Outcome.reread` gives: the
same in all but the timestamps, each of which is what its text is read as.
-/

namespace CommitGate

open Json Json.Decode

/-! ## What is read of what is written -/

/-- The moment that the text of a moment is read as. -/
def Timestamp.reread (t : Timestamp) : Option Timestamp := (Timestamp.parse t.zuluText.toList).toOption

@[inherit_doc Timestamp.reread]
def Person.reread (p : Person) : Option Person :=
  p.timestamp.reread.map fun t => { p with timestamp := t }

@[inherit_doc Timestamp.reread]
def Snapshot.reread (s : Snapshot) : Option Snapshot :=
  s.author.reread.bind fun a => s.committer.reread.map fun c => { s with author := a, committer := c }

@[inherit_doc Timestamp.reread]
def Outcome.reread (o : Outcome) : Option Outcome :=
  match o.commit with
  | none => some o
  | some c => c.reread.map fun c => { o with commit := some c }

/-! ## Parts -/

theorem toOption_mapError {α ε ε' : Type} (x : Except ε α) (f : ε → ε') :
    (x.mapError f).toOption = x.toOption := by
  cases x <;> rfl

theorem yields_timestamp (t : Timestamp) : Yields Timestamp.decoder 0 (.string t.zuluText) t.reread := by
  rw [Timestamp.reread, ← toOption_mapError _ Timestamp.ReadError.message]
  exact yields_textWith _ _ _

theorem yields_person (p : Person) : Yields Person.decoder 1 p.toJson p.reread := by
  unfold Person.decoder Person.toJson
  refine (yields_record _ (by simp [Field.needed])
    (.cons (.needed 0 (yields_text p.name) rfl)
    (.cons (.needed 1 (yields_text p.email) rfl)
    (.cons (.needed 2 (yields_timestamp p.timestamp) rfl) .nil)))
    (by simp) (by simp [Field.needed])).of_eq ?_
  unfold Person.reread
  generalize p.timestamp.reread = t
  cases t <;> rfl

theorem yields_snapshot (s : Snapshot) : Yields Snapshot.decoder 2 s.toJson s.reread := by
  have parents : Yields (list text) 1 (.array (s.parents.map .string)) (some s.parents) :=
    yields_list (fun _ _ => .string _) fun h _ => yields_text h
  unfold Snapshot.decoder Snapshot.toJson
  refine (yields_record _ (by simp [Field.needed])
    (.cons (.needed 0 ((yields_text s.hash).mono (Nat.zero_le _)) rfl)
    (.cons (.needed 1 ((yields_text s.tree).mono (Nat.zero_le _)) rfl)
    (.cons (.needed 2 parents rfl)
    (.cons (.needed 3 (yields_person s.author) rfl)
    (.cons (.needed 4 (yields_person s.committer) rfl)
    (.cons (.needed 5 ((yields_bool s.signed).mono (Nat.zero_le _)) rfl) .nil))))))
    (by simp) (by simp [Field.needed])).of_eq ?_
  unfold Snapshot.reread
  cases s.author.reread <;> cases s.committer.reread <;> rfl

theorem yields_verdict (v : Verdict) : Yields Verdict.decoder 0 (.string v.text) (some v) := by
  have name : Yields Verdict.nameDecoder 0 (.string v.text) (some v) := by
    cases v
    · exact yields_textWith _ _ _
    · exact yields_textWith _ _ _
  constructor
  intro text spelled depth n blank rest deep isBlank
  have read := name.ends text spelled depth (n + blank.length) [] rest deep Reader.Blank.nil
  cases spelled
  rw [encode_quote_append] at read ⊢
  unfold Verdict.decoder
  rw [Reader.bind_of_ok (Reader.peekToken_cons n isBlank rfl)]
  exact read

/-! ## Trust sources -/

theorem Signer.fits_toJson (s : Signer) : s.toJson.Fits 1 := by
  refine .object fun m hm => ?_
  simp only [List.mem_cons, List.not_mem_nil, or_false] at hm
  rcases hm with rfl | rfl | rfl <;> exact .string _

/-- The name of its kind is the first member of a source. The others make the source again. -/
theorem exists_kind (s : TrustSource) : ∃ kind members,
    s.toJson = .object (("verified_by", .string s.tag) :: members) ∧
      Yields TrustSource.Kind.decoder 0 (.string s.tag) (some kind) ∧
      (∀ m ∈ members, m.1 ≠ "verified_by" ∧ m.2.Fits 1) ∧
      TrustSource.ofContent kind (.object members) = .ok s := by
  cases s with
  | emailAddress email =>
    refine ⟨.emailAddress, _, rfl, yields_textWith _ _ _, fun m hm => ?_, rfl⟩
    rw [List.mem_singleton.1 hm]
    exact ⟨by simp, .string _⟩
  | thirdPartyKey signer =>
    refine ⟨.thirdPartyKey, _, rfl, yields_textWith _ _ _, fun m hm => ?_, rfl⟩
    rw [List.mem_singleton.1 hm]
    exact ⟨by simp, signer.fits_toJson⟩
  | managedKey keyId email =>
    refine ⟨.managedKey, _, rfl, yields_textWith _ _ _, fun m hm => ?_, rfl⟩
    rw [List.mem_singleton.1 hm]
    refine ⟨by simp, .object fun m hm => ?_⟩
    simp only [List.mem_cons, List.not_mem_nil, or_false] at hm
    rcases hm with rfl | rfl <;> exact .string _

theorem yields_source (s : TrustSource) : Yields TrustSource.decoder 2 s.toJson (some s) := by
  obtain ⟨kind, members, written, name, others, content⟩ := exists_kind s
  have tagged := Content.yields_tagged "internally tagged enum VerificationDetails"
    (name.mono (Nat.zero_le 1)) (fun m hm => (others m hm).1) fun m hm => (others m hm).2
  rw [written]
  constructor
  intro text spelled depth n blank rest deep isBlank
  obtain ⟨m, read⟩ := tagged.ends text spelled depth n blank rest deep isBlank
  unfold TrustSource.decoder
  rw [Reader.bind_of_ok read]
  simp only [content]
  exact ⟨m, rfl⟩

/-! ## Outcomes -/

/-- An error line as a JSON object. -/
def errorJson (e : String) : Value := .object [("desc", .string e)]

theorem yields_error (e : String) : Yields Outcome.errorDecoder 1 (errorJson e) (some e) := by
  unfold Outcome.errorDecoder errorJson
  exact (yields_record _ (by simp [Field.needed]) (.cons (.needed 0 (yields_text e) rfl) .nil)
    (by simp) (by simp [Field.needed])).of_eq rfl

theorem fits_errorJson (e : String) : (errorJson e).Fits 1 := by
  refine .object fun m hm => ?_
  rw [List.mem_singleton.1 hm]
  exact .string _

/-- A member is stored if it is there. -/
theorem stores_member? {α β : Type} {fields : List (Json.Decode.Field α)} {level : Nat} {k : String}
    {decode : Decoder (Option β)} {set : α → Option β → α} {write : β → Value} {read : β → Option β}
    (i : Nat) (h : ∀ b, Yields decode level (write b) ((read b).map some))
    (field : fields[i]? = some (.optional k decode set)) (x : Option β) :
    List.Forall₂ (Stores fields level) (Outcome.member? k (x.map write))
      (x.toList.map fun b a => ((read b).map some).map (set a)) := by
  cases x with
  | none => exact .nil
  | some b => exact .cons (.optional i (h b) field) .nil

theorem yields_outcome (o : Outcome) : Yields Outcome.decoder 3 o.toJson o.reread := by
  have commit : ∀ c : Snapshot, Yields (optional Snapshot.decoder) 2 c.toJson (c.reread.map some) :=
    fun c => (yields_snapshot c).optional
  have source : ∀ s : TrustSource, Yields (optional TrustSource.decoder) 2 s.toJson ((some s).map some) :=
    fun s => (yields_source s).optional
  have errors : Yields (list Outcome.errorDecoder) 2 (.array (o.errors.map errorJson)) (some o.errors) :=
    yields_list (fun e _ => fits_errorJson e) fun e _ => yields_error e
  unfold Outcome.decoder Outcome.toJson
  refine (yields_record _ (by simp [Field.needed, Field.optional])
    (List.rel_append (List.rel_append (List.rel_append (List.rel_append
      (.cons (.needed 0 ((yields_text o.version).mono (Nat.zero_le _)) rfl)
      (.cons (.needed 1 ((yields_text o.repository).mono (Nat.zero_le _)) rfl) .nil))
      (stores_member? 2 commit rfl o.commit))
      (.cons (.needed 3 ((yields_verdict o.verdict).mono (Nat.zero_le _)) rfl)
      (.cons (.needed 4 ((yields_text o.description).mono (Nat.zero_le _)) rfl) .nil)))
      (stores_member? 5 source rfl o.source))
      (.cons (.optional 6 errors rfl) .nil))
    ?_ ?_).of_eq ?_
  · cases o.commit <;> cases o.source <;> simp [Outcome.member?]
  · simp [Field.needed, Field.optional]
  · obtain ⟨version, repository, commit, verdict, description, source, errors⟩ := o
    cases commit with
    | none => cases source <;> rfl
    | some c => cases hc : c.reread <;> cases source <;> simp [Outcome.reread, hc]

end CommitGate

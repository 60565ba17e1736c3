import CommitGate.Proofs.Outcome.RoundTrip
import CommitGate.Proofs.Text.Lines

/-! # What a file of exports holds

Outcomes are appended to a file, one after the other. Whatever their texts are, each that can be written adds one
line and changes nothing else, because no line feed is left in an outcome on one line
(`Outcome.printed_of_mem_render`). A file that is not there, is empty or ends with a line feed has the lines it had,
and behind them one for each of these outcomes (`Export.appendAll_outcomes`).
-/

namespace CommitGate

open Json

/-! ## One line -/

theorem Person.fits_toJson (p : Person) : p.toJson.Fits 1 := by
  refine .object fun m hm => ?_
  simp only [List.mem_cons, List.not_mem_nil, or_false] at hm
  rcases hm with rfl | rfl | rfl <;> exact .string _

theorem Snapshot.fits_toJson (s : Snapshot) : s.toJson.Fits 2 := by
  refine .object fun m hm => ?_
  simp only [List.mem_cons, List.not_mem_nil, or_false] at hm
  rcases hm with rfl | rfl | rfl | rfl | rfl | rfl
  · exact .string _
  · exact .string _
  · refine .array fun v hv => ?_
    obtain ⟨h, -, rfl⟩ := List.mem_map.1 hv
    exact .string _
  · exact s.author.fits_toJson
  · exact s.committer.fits_toJson
  · exact .bool _

theorem TrustSource.fits_toJson (s : TrustSource) : s.toJson.Fits 2 := by
  obtain ⟨kind, members, written, -, others, -⟩ := exists_kind s
  rw [written]
  refine .object fun m hm => ?_
  rcases List.mem_cons.1 hm with rfl | hm
  · exact .string _
  · exact (others m hm).2

theorem Outcome.fits_toJson (o : Outcome) : o.toJson.Fits 3 := by
  refine .object fun m hm => ?_
  simp only [List.mem_append, List.mem_cons, List.not_mem_nil, or_false] at hm
  rcases hm with ((((rfl | rfl) | hm) | (rfl | rfl)) | hm) | rfl
  · exact .string _
  · exact .string _
  · cases hc : o.commit with
    | none =>
      rw [hc] at hm
      cases hm
    | some c =>
      rw [hc] at hm
      obtain rfl := List.mem_singleton.1 hm
      exact c.fits_toJson
  · exact .string _
  · exact .string _
  · cases hs : o.source with
    | none =>
      rw [hs] at hm
      cases hm
    | some s =>
      rw [hs] at hm
      obtain rfl := List.mem_singleton.1 hm
      exact s.fits_toJson
  · refine .array fun v hv => ?_
    obtain ⟨e, -, rfl⟩ := List.mem_map.1 hv
    exact fits_errorJson e

/-- All characters of an outcome on one line are printed ones. -/
theorem Outcome.printed_of_mem_render (o : Outcome) : ∀ c ∈ o.render.toList, 0x20 ≤ c.toNat := by
  rw [Outcome.render, Value.render, String.toList_ofList]
  exact printed_of_mem_chars o.fits_toJson

/-- Over several lines, an outcome has another text. -/
theorem Program.printed_ne (o : Outcome) : Program.printed true o ≠ Program.printed false o := by
  intro same
  have second := congrArg (fun s : String => s.toList[1]?) same
  simp [Program.printed, Outcome.render, Value.render, Value.pretty, Outcome.toJson, Value.prettyChars,
    charsMembers_cons, Value.chars, quote, Value.newLine] at second

namespace Export

/-- The line of an outcome, without the line feed behind it. -/
def outcomeLine (o : Outcome) : Bytes := Utf8.ofString (key ++ "=" ++ o.render)

theorem append_outcome (content : Option Bytes) (o : Outcome) :
    append content o.render = content.getD [] ++ (outcomeLine o ++ [0x0A]) := by
  simp [append, line, outcomeLine, Utf8.ofString, Utf8.encodeChar]

theorem appendOutcome_of_isDatable (content : Option Bytes) {o : Outcome} (h : o.IsDatable) :
    appendOutcome content o = some (append content o.render) := by
  rw [appendOutcome, Outcome.written?_eq, if_pos h]

theorem appendOutcome_of_not_isDatable (content : Option Bytes) {o : Outcome} (h : ¬o.IsDatable) :
    appendOutcome content o = content := by
  rw [appendOutcome, Outcome.written?_eq, if_neg h]

theorem feed_not_mem_outcomeLine (o : Outcome) : 0x0A ∉ outcomeLine o := by
  intro feed
  obtain ⟨c, hc, feed⟩ := List.mem_flatMap.1 feed
  have printed : 0x20 ≤ c.toNat := by
    rw [String.toList_append, List.mem_append] at hc
    rcases hc with hc | hc
    · exact (forall_mem_of_all (by decide) : ∀ c ∈ (key ++ "=").toList, 0x20 ≤ c.toNat) c hc
    · exact o.printed_of_mem_render c hc
  rcases Utf8.of_mem_encodeChar feed with ⟨-, same⟩ | ⟨-, beyond⟩
  · rw [← same] at printed
    exact absurd printed (by decide)
  · exact absurd beyond (by decide)

/-! ## All lines -/

/-- The file is not there, is empty or ends with a line feed. -/
def IsEnded (content : Option Bytes) : Prop := ∀ b ∈ (content.getD []).getLast?, b = 0x0A

/-- What the file holds after all outcomes are appended. -/
def appendAll (content : Option Bytes) (os : List Outcome) : Option Bytes := os.foldl appendOutcome content

/-- The lines of the outcomes that can be written. -/
def linesOf (os : List Outcome) : List Bytes := (os.filter fun o => o.IsDatable).map outcomeLine

theorem appendAll_cons (content : Option Bytes) (o : Outcome) (os : List Outcome) :
    appendAll content (o :: os) = appendAll (appendOutcome content o) os :=
  List.foldl_cons ..

theorem linesOf_cons (o : Outcome) (os : List Outcome) :
    linesOf (o :: os) = if o.IsDatable then outcomeLine o :: linesOf os else linesOf os := by
  by_cases datable : o.IsDatable <;> simp [linesOf, datable]

theorem appendAll_eq (content : Option Bytes) (os : List Outcome) :
    (appendAll content os).getD [] = content.getD [] ++ Bytes.unlines (linesOf os) := by
  induction os generalizing content with
  | nil => rw [linesOf, List.filter_nil, List.map_nil, Bytes.unlines_nil, List.append_nil, appendAll, List.foldl_nil]
  | cons o os ih =>
    rw [appendAll_cons, ih, linesOf_cons]
    by_cases datable : o.IsDatable
    · rw [appendOutcome_of_isDatable content datable, if_pos datable, Option.getD_some, append_outcome,
        Bytes.unlines_cons, List.append_assoc, List.append_assoc, List.singleton_append]
    · rw [appendOutcome_of_not_isDatable content datable, if_neg datable]

/-- What is behind the lines of such a file begins a line of its own. -/
theorem exists_lines {content : Option Bytes} (ended : IsEnded content) :
    ∃ lines, ∀ rest, (content.getD [] ++ rest).splitOn 0x0A = lines ++ rest.splitOn 0x0A := by
  rcases List.eq_nil_or_concat (content.getD []) with empty | ⟨before, last, text⟩
  · exact ⟨[], fun rest => by rw [empty, List.nil_append, List.nil_append]⟩
  · rw [List.concat_eq_append] at text
    have feed : last = 0x0A := ended last (by rw [text, List.getLast?_concat]; rfl)
    refine ⟨before.splitOn 0x0A, fun rest => ?_⟩
    rw [text, feed, List.append_assoc, List.singleton_append, List.splitOn_append_cons_self]

theorem splitOn_appendAll {content : Option Bytes} (ended : IsEnded content) (os : List Outcome) :
    ((appendAll content os).getD []).splitOn 0x0A =
      ((content.getD []).splitOn 0x0A).dropLast ++ linesOf os ++ [[]] := by
  obtain ⟨lines, behind⟩ := exists_lines ended
  have earlier : (content.getD []).splitOn 0x0A = lines ++ [[]] := by
    rw [← List.append_nil (content.getD []), behind, List.splitOn_nil]
  have noFeed : ∀ l ∈ linesOf os, 0x0A ∉ l := fun l hl => by
    obtain ⟨o, -, rfl⟩ := List.mem_map.1 hl
    exact feed_not_mem_outcomeLine o
  have added := Bytes.splitOn_unlines noFeed []
  rw [List.append_nil, List.splitOn_nil] at added
  rw [appendAll_eq, behind, added, earlier, List.dropLast_concat, List.append_assoc]

/-- Outcomes that are appended one after the other add a line each to a file that ends with a line feed, if they can
be written, and leave it as it is otherwise. The value of a line has printed characters only, and that of an outcome
which the program built is read as this outcome. An outcome can be written exactly if the years of its dates are
known, and nothing of what it would be by the calendar is read otherwise. How an outcome is printed makes no
difference. -/
theorem appendAll_outcomes {content : Option Bytes} (ended : IsEnded content) (os : List Outcome) :
    (appendAll content os).getD [] = content.getD [] ++ Bytes.unlines (linesOf os) ∧
      ((appendAll content os).getD []).splitOn 0x0A =
        ((content.getD []).splitOn 0x0A).dropLast ++ linesOf os ++ [[]] ∧
      (∀ o ∈ os, (∀ c ∈ o.render.toList, 0x20 ≤ c.toNat) ∧
        o.written? = (if o.IsDatable then some o.render else none) ∧
        (o.IsBuilt → (Outcome.parse o.render).toOption = if o.IsDatable then some o else none)) ∧
      ∀ env r, (Program.reported env true r).exported = (Program.reported env false r).exported ∧
        (r.outcome.IsDatable →
          (Program.reported env true r).printed ≠ (Program.reported env false r).printed) := by
  refine ⟨appendAll_eq content os, splitOn_appendAll ended os,
    fun o _ => ⟨o.printed_of_mem_render, o.written?_eq, fun built => ?_⟩,
    fun env r => ⟨rfl, fun datable => ?_⟩⟩
  · rw [← built.reread_eq]
    exact o.parse_render
  · simp only [Program.reported, Program.printed?, Outcome.isWritable_iff.2 datable, if_true, Option.getD_some]
    exact Program.printed_ne r.outcome

/-- An outcome behind a line that another step has written. -/
theorem appendAll_outcomes_behind :
    ∃ c, Commit.ofRaw "abc123" (rawAt "1700000000 -0930") = .ok c ∧ (unsignedOutcome c).IsBuilt ∧
      IsEnded (some (Bytes.ofAscii "existing=1\n")) ∧
      ((appendAll (some (Bytes.ofAscii "existing=1\n")) [unsignedOutcome c]).getD []).splitOn 0x0A =
        [Bytes.ofAscii "existing=1", outcomeLine (unsignedOutcome c), []] := by
  obtain ⟨c, accepted, datable⟩ := exists_dated
  have ended : IsEnded (some (Bytes.ofAscii "existing=1\n")) := by
    rw [IsEnded]
    decide +kernel
  have earlier : (((some (Bytes.ofAscii "existing=1\n")).getD []).splitOn 0x0A).dropLast =
      [Bytes.ofAscii "existing=1"] := by
    decide +kernel
  have added : linesOf [unsignedOutcome c] = [outcomeLine (unsignedOutcome c)] := by
    rw [linesOf_cons, if_pos (isDatable_unsignedOutcome.2 datable)]
    rfl
  have lines := (appendAll_outcomes ended [unsignedOutcome c]).2.1
  rw [earlier, added] at lines
  exact ⟨c, accepted, isBuilt_unsignedOutcome accepted, ended, lines⟩

/-- An outcome that adds no line, and whose line by the calendar is not read: the local year of the commit's moment is
not known. -/
theorem appendAll_outcomes_undated :
    ∃ c, Commit.ofRaw "abc123" (rawAt "8210266876799 +0100") = .ok c ∧ (unsignedOutcome c).IsBuilt ∧
      appendAll none [unsignedOutcome c] = none ∧
      Outcome.parse (unsignedOutcome c).render ≠ .ok (unsignedOutcome c) := by
  obtain ⟨c, accepted, undated⟩ := exists_undated
  have built := isBuilt_unsignedOutcome accepted
  have unknown : ¬(unsignedOutcome c).IsDatable := fun datable => undated (isDatable_unsignedOutcome.1 datable)
  exact ⟨c, accepted, built, appendOutcome_of_not_isDatable none unknown, built.parse_ne unknown⟩

end Export

end CommitGate

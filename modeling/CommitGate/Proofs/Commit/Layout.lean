import CommitGate.Commit.Object
import CommitGate.Proofs.Commit.Identity

/-! # Commit objects line by line

Every text that is read as a commit has a layout: header lines, each ended by a line feed, then an empty
line and the message. A layout keeps what reading loses, the texts of the identities and the lines of the
headers as they stand.

* `read?_sound`: what is read has a layout, and its bytes are the text that was read;
* `write_withoutSignatures_iff`: what is written is a layout again, with other lines in some places.
-/

namespace CommitGate.Commit

open Bytes (unlines)

/-- A header as it is spelled: its name, the first line of its value and the further lines, which stand
after a space each. -/
structure Block where
  name : Bytes
  first : Bytes
  more : List Bytes

namespace Block

/-- The lines of the header. -/
def lines (b : Block) : List Bytes := (b.name ++ 0x20 :: b.first) :: b.more.map (0x20 :: ·)

/-- The header as it is read. -/
def header (b : Block) : Header :=
  ⟨b.name, if b.more = [] then b.first
    else [0x0A].intercalate ((b.first :: b.more).map Object.dropReturn)⟩

/-- The lines of the header when it is written: of several lines, none ends with a carriage return. -/
def written (b : Block) : List Bytes :=
  if b.more = [] then b.lines
  else (b.name ++ 0x20 :: Object.dropReturn b.first) ::
    b.more.map fun line => 0x20 :: Object.dropReturn line

/-- The name is not empty and has no space, and no line has a line feed. -/
structure WellFormed (b : Block) : Prop where
  named : b.name ≠ []
  name : ∀ x ∈ b.name, x ≠ 0x20 ∧ x ≠ 0x0A
  valued : b.first ≠ []
  first : 0x0A ∉ b.first
  more : ∀ line ∈ b.more, 0x0A ∉ line

theorem WellFormed.space_not_mem {b : Block} (h : b.WellFormed) : 0x20 ∉ b.name :=
  fun hm => (h.name _ hm).1 rfl

theorem WellFormed.feed_not_mem {b : Block} (h : b.WellFormed) : 0x0A ∉ b.name :=
  fun hm => (h.name _ hm).2 rfl

end Block

/-- The text is a hash in hexadecimal. -/
def IsHash (hash : Bytes) : Prop := hash.length = 40 ∧ hash.all Object.isHexDigit = true

/-- A line with a header's name and value. -/
def fieldLine (name : String) (value : Bytes) : Bytes := Bytes.ofAscii name ++ 0x20 :: value

/-- What stands in a line before its first space: the name of the header that it begins, and nothing in a
continuation line. -/
def lineName (line : Bytes) : Bytes := line.takeWhile (· != 0x20)

theorem lineName_append {name rest : Bytes} (h : 0x20 ∉ name) : lineName (name ++ 0x20 :: rest) = name :=
  takeWhile_ne h

/-- The lines of the headers that have their own place. -/
def fixedLines (o : Object) (author committer : Bytes) : List Bytes :=
  fieldLine "tree" o.tree :: o.parents.map (fieldLine "parent") ++
    [fieldLine "author" author, fieldLine "committer" committer] ++
    o.encoding.toList.map (fieldLine "encoding")

/-- A commit with the texts of its identities and headers. -/
structure Layout where
  object : Object
  author : Bytes
  committer : Bytes
  blocks : List Block

namespace Layout

/-- The header lines. -/
def lines (l : Layout) : List Bytes :=
  fixedLines l.object l.author l.committer ++ l.blocks.flatMap Block.lines

/-- The text. -/
def bytes (l : Layout) : Bytes := unlines l.lines ++ 0x0A :: l.object.message

/-- The texts are spellings of what the commit has. -/
structure WellFormed (l : Layout) : Prop where
  tree : IsHash l.object.tree
  parents : ∀ hash ∈ l.object.parents, IsHash hash
  author : 0x0A ∉ l.author
  readAuthor : ∃ rest, Identity.read (l.author ++ 0x0A :: rest) = some (l.object.author, 0x0A :: rest)
  committer : 0x0A ∉ l.committer
  readCommitter : ∃ rest,
    Identity.read (l.committer ++ 0x0A :: rest) = some (l.object.committer, 0x0A :: rest)
  encoding : ∀ encoding ∈ l.object.encoding, 0x0A ∉ encoding
  blocks : ∀ b ∈ l.blocks, b.WellFormed
  headers : l.object.headers = l.blocks.map Block.header

end Layout

/-! ## No line has a line feed inside -/

theorem not_mem_fieldLine {name : String} {value : Bytes} (hn : 0x0A ∉ Bytes.ofAscii name)
    (hv : 0x0A ∉ value) : 0x0A ∉ fieldLine name value := by
  simp [fieldLine, hn, hv]

theorem IsHash.not_mem {hash : Bytes} (h : IsHash hash) : 0x0A ∉ hash := by
  intro hm
  cases List.all_eq_true.1 h.2 _ hm

theorem not_mem_fixedLines {o : Object} {author committer : Bytes} (ht : IsHash o.tree)
    (hp : ∀ hash ∈ o.parents, IsHash hash) (ha : 0x0A ∉ author) (hc : 0x0A ∉ committer)
    (he : ∀ encoding ∈ o.encoding, 0x0A ∉ encoding) :
    ∀ line ∈ fixedLines o author committer, 0x0A ∉ line := by
  intro line hl
  simp only [fixedLines, List.cons_append, List.mem_cons, List.mem_append, List.mem_map,
    List.not_mem_nil, or_false, Option.mem_toList] at hl
  rcases hl with rfl | (⟨hash, hm, rfl⟩ | rfl | rfl) | ⟨encoding, hm, rfl⟩
  · exact not_mem_fieldLine (by decide) ht.not_mem
  · exact not_mem_fieldLine (by decide) (hp hash hm).not_mem
  · exact not_mem_fieldLine (by decide) ha
  · exact not_mem_fieldLine (by decide) hc
  · exact not_mem_fieldLine (by decide) (he encoding hm)

theorem Block.not_mem_lines {b : Block} (h : b.WellFormed) : ∀ line ∈ b.lines, 0x0A ∉ line := by
  intro line hl
  rcases List.mem_cons.1 hl with rfl | hl
  · simp [h.feed_not_mem, h.first]
  · obtain ⟨more, hm, rfl⟩ := List.mem_map.1 hl
    simp [h.more more hm]

/-- The same for whole texts, however the headers without a fixed place are spelled. -/
theorem not_mem_fixedLines_append {o : Object} {author committer : Bytes} {blocks : List Block}
    {spell : Block → List Bytes} (fixed : ∀ line ∈ fixedLines o author committer, 0x0A ∉ line)
    (spelled : ∀ b ∈ blocks, ∀ line ∈ spell b, 0x0A ∉ line) :
    ∀ line ∈ fixedLines o author committer ++ blocks.flatMap spell, 0x0A ∉ line := by
  intro line hl
  rcases List.mem_append.1 hl with hl | hl
  · exact fixed line hl
  · obtain ⟨b, hb, hl⟩ := List.mem_flatMap.1 hl
    exact spelled b hb line hl

theorem Layout.not_mem_fixed {l : Layout} (h : l.WellFormed) :
    ∀ line ∈ fixedLines l.object l.author l.committer, 0x0A ∉ line :=
  not_mem_fixedLines h.tree h.parents h.author h.committer h.encoding

theorem Layout.not_mem_lines {l : Layout} (h : l.WellFormed) : ∀ line ∈ l.lines, 0x0A ∉ line :=
  not_mem_fixedLines_append (not_mem_fixed h) fun b hb => Block.not_mem_lines (h.blocks b hb)

/-! ## Reading keeps the text -/

namespace Object

theorem readField_sound {α : Type} {name : String} {value : Bytes → Option (α × Bytes)}
    {bs rest : Bytes} {x : α} (h : readField name value bs = some (x, rest)) :
    ∃ text, value text = some (x, 0x0A :: rest) ∧ bs = fieldLine name text := by
  simp only [readField, Option.bind_eq_bind, Option.bind_eq_some_iff] at h
  obtain ⟨text, ht, ⟨y, bs'⟩, hv, rest', hl, h⟩ := h
  cases h
  obtain rfl := literal_eq_some_iff.1 ht
  obtain rfl := literal_eq_some_iff.1 hl
  exact ⟨text, hv, by simp [fieldLine]⟩

theorem readHash_sound {bs hash rest : Bytes} (h : readHash bs = some (hash, rest)) :
    bs = hash ++ rest ∧ IsHash hash := by
  simp only [readHash] at h
  split at h
  · rename_i hp
    cases h
    rw [Bool.and_eq_true, decide_eq_true_eq] at hp
    exact ⟨(List.take_append_drop _ _).symm, hp⟩
  · cases h

theorem readLine_sound {bs line rest : Bytes} (h : readLine bs = some (line, rest)) :
    bs = line ++ rest ∧ line ≠ [] ∧ 0x0A ∉ line := by
  simp only [readLine] at h
  split at h
  · cases h
  · rename_i hp
    cases h
    rw [Bool.or_eq_true, not_or, List.isEmpty_iff] at hp
    refine ⟨?_, hp.1, fun hm => ?_⟩
    · rw [drop_length_takeWhile, List.takeWhile_append_dropWhile]
    · cases of_mem_takeWhile hm

theorem readParents_sound {fuel : Nat} {bs rest : Bytes} {hashes : List Bytes}
    (h : readParents fuel bs = (hashes, rest)) :
    bs = unlines (hashes.map (fieldLine "parent")) ++ rest ∧ ∀ hash ∈ hashes, IsHash hash := by
  -- on the fuel, which bounds how many parents are taken
  induction fuel generalizing bs hashes with
  | zero =>
    cases h
    exact ⟨rfl, fun _ hm => nomatch hm⟩
  | succ fuel ih =>
    simp only [readParents] at h
    split at h
    · rename_i hash bs' hf
      rcases hp : readParents fuel bs' with ⟨hashes', rest'⟩
      rw [hp] at h
      cases h
      obtain ⟨text, hv, rfl⟩ := readField_sound hf
      obtain ⟨rfl, hh⟩ := readHash_sound hv
      obtain ⟨rfl, hhs⟩ := ih hp
      refine ⟨by simp [fieldLine], ?_⟩
      intro x hx
      rcases List.mem_cons.1 hx with rfl | hx
      · exact hh
      · exact hhs x hx
    · cases h
      exact ⟨rfl, fun _ hm => nomatch hm⟩

theorem readContinuation_sound {fuel : Nat} {bs rest : Bytes} {lines : List Bytes}
    (h : readContinuation fuel bs = (lines, rest)) :
    bs = unlines (lines.map (0x20 :: ·)) ++ rest ∧ ∀ line ∈ lines, 0x0A ∉ line := by
  -- on the fuel, which bounds how many lines are taken
  induction fuel generalizing bs lines with
  | zero =>
    cases h
    exact ⟨rfl, fun _ hm => nomatch hm⟩
  | succ fuel ih =>
    simp only [readContinuation] at h
    split at h
    · rename_i text
      split at h
      · cases h
        exact ⟨rfl, fun _ hm => nomatch hm⟩
      · rename_i shorter
        obtain ⟨stop, text', ht, hs⟩ := exists_stop (Nat.lt_of_le_of_ne
          (List.takeWhile_sublist (p := (· != 0x0A)) (l := text)).length_le shorter)
        have free : 0x0A ∉ text.takeWhile (· != 0x0A) := fun hm => nomatch of_mem_takeWhile hm
        generalize text.takeWhile (· != 0x0A) = line at *
        obtain rfl : stop = 0x0A := by simpa using hs
        rw [ht, drop_cons] at h
        rcases hr : readContinuation fuel text' with ⟨lines', rest'⟩
        rw [hr] at h
        cases h
        obtain ⟨rfl, hl⟩ := ih hr
        refine ⟨by simp [ht], ?_⟩
        intro x hx
        rcases List.mem_cons.1 hx with rfl | hx
        · exact free
        · exact hl x hx
    · cases h
      exact ⟨rfl, fun _ hm => nomatch hm⟩

theorem readHeader_sound {bs rest : Bytes} {header : Header}
    (h : readHeader bs = some (header, rest)) :
    ∃ b : Block, b.WellFormed ∧ b.header = header ∧ bs = unlines b.lines ++ rest := by
  simp only [readHeader, Option.bind_eq_bind, Option.bind_eq_some_iff, guard_eq_some_iff] at h
  obtain ⟨-, named, bs1, h1, ⟨first, bs2⟩, h2, bs3, h3, h⟩ := h
  obtain ⟨rfl, valued, free⟩ := readLine_sound h2
  obtain rfl := literal_eq_some_iff.1 h3
  rw [drop_length_takeWhile, literal_eq_some_iff] at h1
  have plain : ∀ x ∈ bs.takeWhile (fun b => b != 0x20 && b != 0x0A), x ≠ 0x20 ∧ x ≠ 0x0A := by
    intro x hx
    simpa using of_mem_takeWhile hx
  have split := List.takeWhile_append_dropWhile (p := fun b => b != 0x20 && b != 0x0A) (l := bs)
  rw [h1] at split
  generalize bs.takeWhile (fun b => b != 0x20 && b != 0x0A) = name at *
  have nonempty : name ≠ [] := by simpa using named
  rcases hc : readContinuation bs3.length bs3 with ⟨more, rest'⟩
  obtain ⟨hbs3, hm⟩ := readContinuation_sound hc
  rw [hc] at h
  refine ⟨⟨name, first, more⟩, ⟨nonempty, plain, valued, free, hm⟩, ?_⟩
  cases more with
  | nil =>
    cases h
    exact ⟨rfl, by simp [← split, Block.lines]⟩
  | cons line more =>
    cases h
    refine ⟨rfl, ?_⟩
    rw [← split, hbs3]
    simp [Block.lines]

theorem readHeaders_sound {fuel : Nat} {bs rest : Bytes} {headers : List Header}
    (h : readHeaders fuel bs = (headers, rest)) :
    ∃ blocks : List Block, (∀ b ∈ blocks, b.WellFormed) ∧ headers = blocks.map Block.header ∧
      bs = unlines (blocks.flatMap Block.lines) ++ rest := by
  -- on the fuel, which bounds how many headers are taken
  induction fuel generalizing bs headers with
  | zero =>
    cases h
    exact ⟨[], by simp, rfl, rfl⟩
  | succ fuel ih =>
    simp only [readHeaders] at h
    split at h
    · rename_i header bs' hh
      rcases hr : readHeaders fuel bs' with ⟨headers', rest'⟩
      rw [hr] at h
      cases h
      obtain ⟨b, hb, rfl, rfl⟩ := readHeader_sound hh
      obtain ⟨blocks, hbs, rfl, rfl⟩ := ih hr
      refine ⟨b :: blocks, ?_, rfl, by simp⟩
      intro x hx
      rcases List.mem_cons.1 hx with rfl | hx
      · exact hb
      · exact hbs x hx
    · cases h
      exact ⟨[], by simp, rfl, rfl⟩

theorem readEncoding_sound {bs rest : Bytes} {encoding : Option Bytes}
    (h : readEncoding bs = (encoding, rest)) :
    bs = unlines (encoding.toList.map (fieldLine "encoding")) ++ rest ∧
      ∀ text ∈ encoding, 0x0A ∉ text := by
  simp only [readEncoding] at h
  split at h
  · rename_i text bs' hf
    cases h
    obtain ⟨bs'', hv, rfl⟩ := readField_sound hf
    obtain ⟨rfl, -, free⟩ := readLine_sound hv
    refine ⟨by simp [fieldLine], ?_⟩
    intro x hx
    cases hx
    exact free
  · cases h
    exact ⟨rfl, fun _ hm => nomatch hm⟩

/-- What is read has a layout, and its bytes are the text that was read. -/
theorem read?_sound {raw : Bytes} {o : Object} (h : read? raw = some o) :
    ∃ l : Layout, l.WellFormed ∧ l.object = o ∧ l.bytes = raw := by
  simp only [read?, Option.bind_eq_bind, Option.bind_eq_some_iff] at h
  obtain ⟨⟨tree, bs1⟩, h1, h⟩ := h
  rcases h2 : readParents bs1.length bs1 with ⟨parents, bs2⟩
  simp only [h2] at h
  obtain ⟨⟨author, bs3⟩, h3, ⟨committer, bs4⟩, h4, h⟩ := h
  rcases h5 : readEncoding bs4 with ⟨encoding, bs5⟩
  rcases h6 : readHeaders bs5.length bs5 with ⟨headers, bs6⟩
  simp only [h5, h6] at h
  obtain ⟨message, h7, h⟩ := h
  cases h
  -- from here on every part of the text is named by what was read from it
  obtain ⟨t1, v1, rfl⟩ := readField_sound h1
  obtain ⟨rfl, isTree⟩ := readHash_sound v1
  obtain ⟨rfl, areParents⟩ := readParents_sound h2
  obtain ⟨t3, v3, rfl⟩ := readField_sound h3
  obtain ⟨authorText, rfl, authorFree, -⟩ := Identity.read_sound v3
  obtain ⟨t4, v4, rfl⟩ := readField_sound h4
  obtain ⟨committerText, rfl, committerFree, -⟩ := Identity.read_sound v4
  obtain ⟨rfl, encodingFree⟩ := readEncoding_sound h5
  obtain ⟨blocks, areBlocks, rfl, rfl⟩ := readHeaders_sound h6
  obtain rfl := literal_eq_some_iff.1 h7
  exact ⟨⟨_, authorText, committerText, blocks⟩,
    ⟨isTree, areParents, authorFree, ⟨_, v3⟩, committerFree, ⟨_, v4⟩, encodingFree, areBlocks, rfl⟩,
    rfl, by simp [Layout.bytes, Layout.lines, fixedLines, fieldLine]⟩

end Object

/-! ## Writing keeps the lines -/

/-- The headers that carry no signature. -/
def Layout.unsigned (l : Layout) : List Block :=
  l.blocks.filter fun b => !Object.isSignature b.header

theorem not_mem_dropReturn {line : Bytes} (h : 0x0A ∉ line) : 0x0A ∉ Object.dropReturn line := by
  unfold Object.dropReturn
  split
  · exact fun hm => h (List.dropLast_subset _ hm)
  · exact h

theorem Block.not_mem_written {b : Block} (h : b.WellFormed) : ∀ line ∈ b.written, 0x0A ∉ line := by
  intro line hl
  unfold written at hl
  split at hl
  · exact not_mem_lines h line hl
  · rcases List.mem_cons.1 hl with rfl | hl
    · simp [h.feed_not_mem, not_mem_dropReturn h.first]
    · obtain ⟨more, hm, rfl⟩ := List.mem_map.1 hl
      simp [not_mem_dropReturn (h.more more hm)]

/-- A value of several lines is written as that many lines. -/
theorem writeField_intercalate (name line : Bytes) (lines : List Bytes) :
    Object.writeField name ([0x0A, 0x20].intercalate (line :: lines)) =
      unlines ((name ++ 0x20 :: line) :: lines.map (0x20 :: ·)) := by
  have joined : ∀ line : Bytes, [0x0A, 0x20].intercalate (line :: lines) ++ [0x0A] =
      unlines (line :: lines.map (0x20 :: ·)) := by
    induction lines with
    | nil => simp [List.intercalate]
    | cons line' lines ih =>
      intro line
      have next := ih line'
      simp only [List.intercalate, List.intersperse, List.map_cons, Bytes.unlines_cons] at next ⊢
      simpa using next
  rw [Object.writeField, List.append_assoc, List.cons_append, joined]
  simp

/-- The header of a block is written as the block says. -/
theorem writeHeader_header {b : Block} (h : b.WellFormed) :
    Object.writeHeader b.header = unlines b.written := by
  unfold Object.writeHeader Block.header Block.written
  by_cases hm : b.more = []
  · rw [if_pos hm, if_pos hm, List.splitOn_eq_singleton h.first, writeField_intercalate, Block.lines, hm]
  · -- the joined value falls into the same lines again
    have free : ∀ line ∈ (b.first :: b.more).map Object.dropReturn, 0x0A ∉ line := by
      intro line hl
      obtain ⟨line', hl', rfl⟩ := List.mem_map.1 hl
      apply not_mem_dropReturn
      rcases List.mem_cons.1 hl' with rfl | hl'
      · exact h.first
      · exact h.more _ hl'
    rw [if_neg hm, if_neg hm, List.splitOn_intercalate _ free (by simp), List.map_cons,
      writeField_intercalate, List.map_map]
    rfl

/-- The headers that have their own place are written line by line. -/
theorem write_eq (o : Object) : o.write = (do
    let author ← o.author.write
    let committer ← o.committer.write
    pure (unlines (fixedLines o author committer) ++ o.headers.flatMap Object.writeHeader ++
      0x0A :: o.message)) := by
  have field : ∀ name value, Object.writeField (Bytes.ofAscii name) value =
      fieldLine name value ++ [0x0A] := by
    intro name value
    simp [Object.writeField, fieldLine]
  have parents : o.parents.flatMap (Object.writeField (Bytes.ofAscii "parent")) =
      unlines (o.parents.map (fieldLine "parent")) := by
    rw [unlines, List.flatMap_map]
    exact congrArg (List.flatMap · o.parents) (funext (field "parent"))
  simp only [Object.write, parents, field]
  cases he : o.encoding <;> simp [fixedLines, he]

/-- What is written without signatures has the lines of the layout, the identities and the headers of
several lines as they are written. -/
theorem write_withoutSignatures_iff {l : Layout} (h : l.WellFormed) {payload : Bytes} :
    l.object.withoutSignatures.write = .ok payload ↔
      ∃ author committer, l.object.author.write = .ok author ∧
        l.object.committer.write = .ok committer ∧
        payload = unlines (fixedLines l.object author committer ++ l.unsigned.flatMap Block.written) ++
          0x0A :: l.object.message := by
  have headers : l.object.withoutSignatures.headers.flatMap Object.writeHeader =
      unlines (l.unsigned.flatMap Block.written) := by
    have each : ∀ blocks : List Block, (∀ b ∈ blocks, b.WellFormed) →
        (blocks.map Block.header).flatMap Object.writeHeader =
          unlines (blocks.flatMap Block.written) := by
      intro blocks hb
      induction blocks with
      | nil => rfl
      | cons b blocks ih =>
        have hw := writeHeader_header (hb b (List.mem_cons_self ..))
        have hr := ih fun b' hb' => hb b' (List.mem_cons_of_mem _ hb')
        simp only [List.map_cons, List.flatMap_cons, Bytes.unlines_append, hw, hr]
    rw [Object.withoutSignatures, h.headers, List.filter_map]
    exact each _ fun b hb => h.blocks b (List.mem_filter.1 hb).1
  simp only [write_eq, bind_eq_ok_iff, headers, pure, Except.pure, Except.ok.injEq,
    Bytes.unlines_append]
  constructor
  · rintro ⟨author, ha, committer, hc, rfl⟩
    exact ⟨author, committer, ha, hc, rfl⟩
  · rintro ⟨author, committer, ha, hc, rfl⟩
    exact ⟨author, ha, committer, hc, rfl⟩

end CommitGate.Commit

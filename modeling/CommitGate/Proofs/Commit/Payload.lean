import CommitGate.Commit.Basic
import CommitGate.Proofs.Commit.Layout
import Mathlib.Data.List.Chain

/-! # What the payload has of the raw commit

The payload of a commit is not cut out of the raw commit: the commit is read, and written without its
signatures. So it is not always the raw commit without the signature headers, `stripSignatures`, though it
is for every commit in canonical spelling.

* `IsCanonical` describes this spelling on the header lines of the raw commit;
* `payload_eq_strip_iff`: a commit keeps its payload exactly if it is spelled so;
* `payload_ne_strip`: some commits are accepted in another spelling.
-/

namespace CommitGate.Commit

open Bytes (unlines)

/-! ## Raw commits -/

/-- The line continues the header of the line before it. -/
def isContinuation (line : Bytes) : Bool := line.head? == some 0x20

/-- The line begins a header that carries a signature. -/
def isSignatureLine (line : Bytes) : Bool := (Object.signatureHeader ++ [0x20]).isPrefixOf line

/-- The lines of a commit without the signature headers, of which `inside` says whether the last header
was one. From the first empty line on, all lines are kept. -/
def stripLines : Bool → List Bytes → List Bytes
  | _, [] => []
  | inside, line :: rest =>
    if line = [] then line :: rest
    else if isContinuation line then
      if inside then stripLines inside rest else line :: stripLines inside rest
    else if isSignatureLine line then stripLines true rest
    else line :: stripLines false rest

/-- A raw commit without its signature headers, and with every other byte as it was. -/
def stripSignatures (raw : Bytes) : Bytes := [0x0A].intercalate (stripLines false (raw.splitOn 0x0A))

/-- The header lines of a raw commit. -/
def headerLines (raw : Bytes) : List Bytes := (raw.splitOn 0x0A).takeWhile (· ≠ [])

/-- The text of the first header with a name. -/
def headerText? (name : String) (raw : Bytes) : Option Bytes :=
  (headerLines raw).findSome? (literal (Bytes.ofAscii name ++ [0x20]))

/-- If the second line continues the first one, neither ends with a carriage return. -/
def JoinsPlainly (line next : Bytes) : Prop :=
  isContinuation next = true → line.getLast? ≠ some 0x0D ∧ next.getLast? ≠ some 0x0D

/-- The identities are in canonical spelling, and no line of a header of several lines ends with a
carriage return. Signature headers are of no account. -/
structure IsCanonical (raw : Bytes) : Prop where
  author : ∀ text ∈ headerText? "author" raw, Identity.IsCanonical text
  committer : ∀ text ∈ headerText? "committer" raw, Identity.IsCanonical text
  returns : (stripLines false (headerLines raw)).IsChain JoinsPlainly

/-! ## The lines of a layout -/

/-- The line is one of a header, and neither a continuation nor of a signature. -/
structure IsPlainLine (line : Bytes) : Prop where
  nonempty : line ≠ []
  begins : isContinuation line = false
  unsigned : isSignatureLine line = false

theorem isPlainLine_of_mem_fixedLines {o : Object} {author committer line : Bytes}
    (h : line ∈ fixedLines o author committer) : IsPlainLine line := by
  simp only [fixedLines, List.cons_append, List.mem_cons, List.mem_append, List.mem_map,
    List.not_mem_nil, or_false] at h
  rcases h with rfl | (⟨hash, -, rfl⟩ | rfl | rfl) | ⟨encoding, -, rfl⟩
  all_goals exact ⟨List.cons_ne_nil _ _, rfl, rfl⟩

namespace Block

theorem nonempty_of_mem_lines {b : Block} {line : Bytes} (h : line ∈ b.lines) : line ≠ [] := by
  rcases List.mem_cons.1 h with rfl | h
  · simp
  · obtain ⟨more, -, rfl⟩ := List.mem_map.1 h
    simp

/-- The header carries a signature. -/
def isSignature (b : Block) : Bool := Object.isSignature b.header

/-- The first line of a header is no continuation. -/
theorem isContinuation_first {b : Block} (h : b.WellFormed) :
    isContinuation (b.name ++ 0x20 :: b.first) = false := by
  cases hn : b.name with
  | nil => exact absurd hn h.named
  | cons x name =>
    have hx := (h.name x (by simp [hn])).1
    simpa [isContinuation] using hx

/-- The first line of a header tells whether it carries a signature. -/
theorem isSignatureLine_first {b : Block} (h : b.WellFormed) :
    isSignatureLine (b.name ++ 0x20 :: b.first) = b.isSignature := by
  have name : lineName (b.name ++ 0x20 :: b.first) = b.name := lineName_append h.space_not_mem
  rw [Bool.eq_iff_iff, isSignatureLine, List.isPrefixOf_iff_prefix, isSignature,
    Object.isSignature, header, beq_iff_eq]
  constructor
  · rintro ⟨rest, hr⟩
    -- both names end at the first space
    have signature : lineName (Object.signatureHeader ++ [0x20] ++ rest) = Object.signatureHeader := by
      rw [List.append_assoc]
      exact lineName_append (by decide)
    rw [← name, ← hr, signature]
  · intro hn
    have hn : b.name = Object.signatureHeader := hn
    exact ⟨b.first, by rw [hn]; simp⟩

end Block

/-! ## Stripping a layout -/

/-- Lines that are neither empty nor part of a signature are kept. -/
theorem stripLines_plain {lines rest : List Bytes} (h : ∀ line ∈ lines, IsPlainLine line) :
    stripLines false (lines ++ rest) = lines ++ stripLines false rest := by
  induction lines with
  | nil => rfl
  | cons line lines ih =>
    have hl := h line (List.mem_cons_self ..)
    have hr := ih fun l hl => h l (List.mem_cons_of_mem _ hl)
    rw [List.cons_append, stripLines, if_neg hl.nonempty, hl.begins, hl.unsigned, hr]
    rfl

/-- Continuation lines go with the header that they continue. -/
theorem stripLines_more (inside : Bool) (more rest : List Bytes) :
    stripLines inside (more.map (0x20 :: ·) ++ rest) =
      (if inside then [] else more.map (0x20 :: ·)) ++ stripLines inside rest := by
  -- on the lines, each of which leaves `inside` as it was
  induction more with
  | nil => cases inside <;> rfl
  | cons line more ih =>
    rw [List.map_cons, List.cons_append, stripLines, if_neg (List.cons_ne_nil _ _), ih]
    cases inside <;> rfl

theorem stripLines_block {b : Block} (h : b.WellFormed) (inside : Bool) (rest : List Bytes) :
    stripLines inside (b.lines ++ rest) =
      (if b.isSignature then [] else b.lines) ++ stripLines b.isSignature rest := by
  have nonempty : b.name ++ 0x20 :: b.first ≠ [] := by simp
  rw [Block.lines, List.cons_append, stripLines, if_neg nonempty, Block.isContinuation_first h,
    Block.isSignatureLine_first h]
  cases hs : b.isSignature with
  | true => simp [stripLines_more]
  | false => simp [stripLines_more]

/-- Of the headers before the end of the header lines, those that carry no signature are left. -/
theorem stripLines_blocks {blocks : List Block} {rest : List Bytes}
    (h : ∀ b ∈ blocks, b.WellFormed) (ends : ∀ inside, stripLines inside rest = rest)
    (inside : Bool) :
    stripLines inside (blocks.flatMap Block.lines ++ rest) =
      (blocks.filter fun b => !b.isSignature).flatMap Block.lines ++ rest := by
  induction blocks generalizing inside with
  | nil => exact ends inside
  | cons b blocks ih =>
    have hr := fun inside => ih (fun b' hb => h b' (List.mem_cons_of_mem _ hb)) inside
    rw [List.flatMap_cons, List.append_assoc, stripLines_block (h b (List.mem_cons_self ..)), hr]
    cases hs : b.isSignature <;> simp [hs]

/-- The lines of a text of header lines and a message. -/
theorem splitOn_text {lines : List Bytes} (free : ∀ line ∈ lines, 0x0A ∉ line) (message : Bytes) :
    (unlines lines ++ 0x0A :: message).splitOn 0x0A = lines ++ [] :: message.splitOn 0x0A := by
  have behind : ((0x0A : UInt8) :: message).splitOn 0x0A = [] :: message.splitOn 0x0A :=
    List.splitOn_append_cons_self [] message
  rw [Bytes.splitOn_unlines free, behind]

/-- The header lines of such a text, none of which is empty. -/
theorem headerLines_text {lines : List Bytes} (free : ∀ line ∈ lines, 0x0A ∉ line)
    (nonempty : ∀ line ∈ lines, line ≠ []) (message : Bytes) :
    headerLines (unlines lines ++ 0x0A :: message) = lines := by
  rw [headerLines, splitOn_text free]
  exact takeWhile_stop (fun line hl => by simpa using nonempty line hl) (by decide)

namespace Layout

theorem nonempty_of_mem_lines {l : Layout} {line : Bytes} (hl : line ∈ l.lines) : line ≠ [] := by
  rcases List.mem_append.1 hl with hl | hl
  · exact (isPlainLine_of_mem_fixedLines hl).nonempty
  · obtain ⟨b, -, hl⟩ := List.mem_flatMap.1 hl
    exact Block.nonempty_of_mem_lines hl

theorem splitOn_bytes {l : Layout} (h : l.WellFormed) :
    l.bytes.splitOn 0x0A = l.lines ++ [] :: l.object.message.splitOn 0x0A :=
  splitOn_text (not_mem_lines h) l.object.message

theorem headerLines_bytes {l : Layout} (h : l.WellFormed) : headerLines l.bytes = l.lines :=
  headerLines_text (not_mem_lines h) (fun _ => nonempty_of_mem_lines) l.object.message

/-- The header lines of the text without those of signatures. -/
theorem stripLines_lines {l : Layout} (h : l.WellFormed) {rest : List Bytes}
    (ends : ∀ inside, stripLines inside rest = rest) :
    stripLines false (l.lines ++ rest) =
      (fixedLines l.object l.author l.committer ++ l.unsigned.flatMap Block.lines) ++ rest := by
  rw [lines, List.append_assoc, stripLines_plain fun _ => isPlainLine_of_mem_fixedLines,
    stripLines_blocks h.blocks ends, List.append_assoc]
  rfl

/-- The text without its signature headers. -/
theorem stripSignatures_bytes {l : Layout} (h : l.WellFormed) :
    stripSignatures l.bytes =
      unlines (fixedLines l.object l.author l.committer ++ l.unsigned.flatMap Block.lines) ++
        0x0A :: l.object.message := by
  have message : [0x0A].intercalate ([] :: l.object.message.splitOn 0x0A) =
      0x0A :: l.object.message := by
    cases hm : l.object.message.splitOn 0x0A with
    | nil => exact absurd hm (List.splitOn_ne_nil _ _)
    | cons part parts =>
      have joined := Bytes.intercalate_append [[]] part parts
      rw [← hm, List.intercalate_splitOn] at joined
      rw [← hm]
      exact joined
  rw [stripSignatures, splitOn_bytes h, stripLines_lines h fun _ => rfl, Bytes.intercalate_append,
    message]

/-- A reader of a header that stands behind those that it does not find. -/
theorem findSome?_skip {name : String} {lines rest : List Bytes} {text : Bytes}
    (h : ∀ line ∈ lines, literal (Bytes.ofAscii name ++ [0x20]) line = none) :
    (lines ++ fieldLine name text :: rest).findSome? (literal (Bytes.ofAscii name ++ [0x20])) =
      some text := by
  have found : literal (Bytes.ofAscii name ++ [0x20]) (fieldLine name text) = some text :=
    literal_eq_some_iff.2 (by simp [fieldLine])
  rw [List.findSome?_append, List.findSome?_eq_none_iff.2 h, Option.none_or, List.findSome?_cons, found]

/-- The first header named `author` is the author's. -/
theorem headerText?_author {l : Layout} (h : l.WellFormed) :
    headerText? "author" l.bytes = some l.author := by
  have first : l.lines = (fieldLine "tree" l.object.tree :: l.object.parents.map (fieldLine "parent")) ++
      fieldLine "author" l.author :: (fieldLine "committer" l.committer ::
        (l.object.encoding.toList.map (fieldLine "encoding") ++ l.blocks.flatMap Block.lines)) := by
    simp [lines, fixedLines]
  rw [headerText?, headerLines_bytes h, first]
  apply findSome?_skip
  intro line hl
  rcases List.mem_cons.1 hl with rfl | hl
  · rfl
  · obtain ⟨hash, -, rfl⟩ := List.mem_map.1 hl
    rfl

/-- The first header named `committer` is the committer's. -/
theorem headerText?_committer {l : Layout} (h : l.WellFormed) :
    headerText? "committer" l.bytes = some l.committer := by
  have first : l.lines = (fieldLine "tree" l.object.tree ::
      (l.object.parents.map (fieldLine "parent") ++ [fieldLine "author" l.author])) ++
      fieldLine "committer" l.committer ::
        (l.object.encoding.toList.map (fieldLine "encoding") ++ l.blocks.flatMap Block.lines) := by
    simp [lines, fixedLines]
  rw [headerText?, headerLines_bytes h, first]
  apply findSome?_skip
  intro line hl
  rcases List.mem_cons.1 hl with rfl | hl
  · rfl
  · rcases List.mem_append.1 hl with hl | hl
    · obtain ⟨hash, -, rfl⟩ := List.mem_map.1 hl
      rfl
    · rw [List.mem_singleton.1 hl]
      rfl

end Layout

/-! ## Lines that are written as they were read -/

/-- Without a carriage return at its end, nothing is dropped from a line. -/
theorem dropReturn_eq_iff {line : Bytes} :
    Object.dropReturn line = line ↔ line.getLast? ≠ some 0x0D := by
  unfold Object.dropReturn
  split
  · rename_i h
    constructor
    · intro heq
      have length := congrArg List.length heq
      cases line with
      | nil => cases h
      | cons x line => simp at length
    · intro hn
      exact absurd h hn
  · rename_i h
    exact ⟨fun _ => h, fun _ => rfl⟩

/-- The end of a text behind a space. -/
theorem getLast?_space (front line : Bytes) :
    (front ++ 0x20 :: line).getLast? = some 0x0D ↔ line.getLast? = some 0x0D := by
  cases line with
  | nil => simp
  | cons x line => simp

/-- A header is written line by line as it was read exactly if it has one line only, or no line ends with
a carriage return. -/
theorem Block.written_eq_lines_iff {b : Block} :
    b.written = b.lines ↔
      b.more = [] ∨ ∀ line ∈ b.first :: b.more, line.getLast? ≠ some 0x0D := by
  unfold written
  by_cases hm : b.more = []
  · simp [hm]
  · rw [if_neg hm, lines, List.cons.injEq, List.append_cancel_left_eq, List.cons.injEq,
      List.map_inj_left, List.forall_mem_cons]
    simp [hm, dropReturn_eq_iff]

/-- Continuation lines are joined plainly if no line ends with a carriage return. -/
theorem isChain_more {line : Bytes} {more : List Bytes} :
    (line :: more.map (0x20 :: ·)).IsChain JoinsPlainly ↔
      more = [] ∨ line.getLast? ≠ some 0x0D ∧ ∀ next ∈ more, next.getLast? ≠ some 0x0D := by
  induction more generalizing line with
  | nil => simp
  | cons next more ih =>
    have space : ((0x20 : UInt8) :: next).getLast? ≠ some 0x0D ↔ next.getLast? ≠ some 0x0D :=
      not_congr (getLast?_space [] next)
    have joins : JoinsPlainly line (0x20 :: next) ↔
        line.getLast? ≠ some 0x0D ∧ next.getLast? ≠ some 0x0D := by
      rw [JoinsPlainly, space]
      exact ⟨fun h => h rfl, fun h _ => h⟩
    rw [List.map_cons, List.isChain_cons_cons, ih, List.forall_mem_cons, joins, space]
    constructor
    · rintro ⟨⟨hl, hn⟩, rfl | ⟨-, hr⟩⟩
      · exact .inr ⟨hl, hn, by simp⟩
      · exact .inr ⟨hl, hn, hr⟩
    · rintro (h | ⟨hl, hn, hr⟩)
      · cases h
      · exact ⟨⟨hl, hn⟩, .inr ⟨hn, hr⟩⟩

theorem isChain_block {b : Block} :
    b.lines.IsChain JoinsPlainly ↔
      b.more = [] ∨ ∀ line ∈ b.first :: b.more, line.getLast? ≠ some 0x0D := by
  rw [Block.lines, isChain_more, List.forall_mem_cons, ne_eq, getLast?_space]

/-- Where no line is a continuation, nothing has to be joined. -/
theorem isChain_of_not_continuation {lines : List Bytes}
    (h : ∀ line ∈ lines, isContinuation line = false) : lines.IsChain JoinsPlainly := by
  induction lines with
  | nil => exact .nil
  | cons line lines ih =>
    have hr := ih fun l hl => h l (List.mem_cons_of_mem _ hl)
    refine List.isChain_cons.2 ⟨fun next hn hc => ?_, hr⟩
    rw [h next (List.mem_cons_of_mem _ (List.mem_of_mem_head? hn))] at hc
    cases hc

/-- A header that follows other lines is not joined to them. -/
theorem isChain_append_blocks {lines : List Bytes} {blocks : List Block}
    (h : ∀ b ∈ blocks, b.WellFormed) :
    (lines ++ blocks.flatMap Block.lines).IsChain JoinsPlainly ↔
      lines.IsChain JoinsPlainly ∧ (blocks.flatMap Block.lines).IsChain JoinsPlainly := by
  rw [List.isChain_append]
  constructor
  · rintro ⟨hl, hb, -⟩
    exact ⟨hl, hb⟩
  · rintro ⟨hl, hb⟩
    refine ⟨hl, hb, fun line _ next hn hc => ?_⟩
    cases blocks with
    | nil => cases hn
    | cons b blocks =>
      cases hn
      rw [Block.isContinuation_first (h b (List.mem_cons_self ..))] at hc
      cases hc

/-- Headers are joined plainly if each of them is. -/
theorem isChain_blocks {blocks : List Block} (h : ∀ b ∈ blocks, b.WellFormed) :
    (blocks.flatMap Block.lines).IsChain JoinsPlainly ↔
      ∀ b ∈ blocks, b.lines.IsChain JoinsPlainly := by
  induction blocks with
  | nil => simp
  | cons b blocks ih =>
    have hr : ∀ b' ∈ blocks, b'.WellFormed := fun b' hb => h b' (List.mem_cons_of_mem _ hb)
    rw [List.flatMap_cons, isChain_append_blocks hr, ih hr, List.forall_mem_cons]

theorem flatMap_eq_iff {blocks : List Block} :
    blocks.flatMap Block.written = blocks.flatMap Block.lines ↔ ∀ b ∈ blocks, b.written = b.lines := by
  induction blocks with
  | nil => simp
  | cons b blocks ih =>
    have length : b.written.length = b.lines.length := by
      unfold Block.written Block.lines
      split <;> simp
    rw [List.flatMap_cons, List.flatMap_cons, List.forall_mem_cons, ← ih]
    constructor
    · intro h
      exact List.append_inj h length
    · rintro ⟨hb, hr⟩
      rw [hb, hr]

theorem fixedLines_append_inj {o : Object} {author author' committer committer' : Bytes}
    {rest rest' : List Bytes} :
    fixedLines o author committer ++ rest = fixedLines o author' committer' ++ rest' ↔
      author = author' ∧ committer = committer' ∧ rest = rest' := by
  simp [fixedLines, fieldLine]

/-! ## The payload -/

namespace Layout

theorem wellFormed_of_mem_unsigned {l : Layout} (h : l.WellFormed) :
    ∀ b ∈ l.unsigned, b.WellFormed := fun b hb => h.blocks b (List.mem_filter.1 hb).1

/-- The text is canonical exactly if the texts of the identities are and the headers without a signature
are written as they were read. -/
theorem isCanonical_iff {l : Layout} (h : l.WellFormed) :
    IsCanonical l.bytes ↔ Identity.IsCanonical l.author ∧ Identity.IsCanonical l.committer ∧
      l.unsigned.flatMap Block.written = l.unsigned.flatMap Block.lines := by
  have stripped : stripLines false (headerLines l.bytes) =
      fixedLines l.object l.author l.committer ++ l.unsigned.flatMap Block.lines := by
    have whole := @stripLines_lines l h [] fun _ => rfl
    rwa [List.append_nil, List.append_nil, ← headerLines_bytes h] at whole
  have fixed : (fixedLines l.object l.author l.committer).IsChain JoinsPlainly :=
    isChain_of_not_continuation fun line hl => (isPlainLine_of_mem_fixedLines hl).begins
  have returns : (stripLines false (headerLines l.bytes)).IsChain JoinsPlainly ↔
      l.unsigned.flatMap Block.written = l.unsigned.flatMap Block.lines := by
    rw [stripped, isChain_append_blocks (wellFormed_of_mem_unsigned h),
      isChain_blocks (wellFormed_of_mem_unsigned h), flatMap_eq_iff]
    simp only [fixed, true_and, isChain_block, Block.written_eq_lines_iff]
  rw [← returns]
  constructor
  · rintro ⟨author, committer, joined⟩
    exact ⟨author _ (headerText?_author h), committer _ (headerText?_committer h), joined⟩
  · rintro ⟨author, committer, joined⟩
    refine ⟨fun text ht => ?_, fun text ht => ?_, joined⟩
    · rw [headerText?_author h] at ht
      cases ht
      exact author
    · rw [headerText?_committer h] at ht
      cases ht
      exact committer

end Layout

/-- A commit is accepted exactly if it is read, written without its signatures, and its identities have
persons; what it holds is read off the object. -/
theorem ofRaw_eq_ok_iff {hash : String} {raw : Bytes} {c : CommitGate.Commit} :
    Commit.ofRaw hash raw = .ok c ↔ ∃ o payload author committer,
      Object.read? raw = some o ∧ o.withoutSignatures.write = .ok payload ∧
        personOf o.author = .ok author ∧ personOf o.committer = .ok committer ∧
        c = { hash, payload, author, committer
              tree := Utf8.toStringLossy o.tree
              parents := o.parents.map Utf8.toStringLossy
              message := Utf8.toStringLossy o.message
              signature := o.signature?.bind signatureText } := by
  cases hr : Object.read? raw with
  | none =>
    constructor
    · intro h
      rw [Commit.ofRaw, hr] at h
      cases h
    · rintro ⟨o, _, _, _, ho, -⟩
      cases ho
  | some o =>
    cases hw : o.withoutSignatures.write with
    | error e =>
      constructor
      · intro h
        simp only [Commit.ofRaw, hr, pure_bind, hw] at h
        cases h
      · rintro ⟨o', _, _, _, ho, hp, -⟩
        obtain rfl := Option.some.inj ho
        cases hw.symm.trans hp
    | ok payload =>
      simp only [Commit.ofRaw, hr, pure_bind, hw, bind_eq_ok_iff]
      constructor
      · rintro ⟨author, ha, committer, hc, h⟩
        cases h
        exact ⟨o, payload, author, committer, rfl, hw, ha, hc, rfl⟩
      · rintro ⟨o', payload', author, committer, ho, hp, ha, hc, rfl⟩
        obtain rfl := Option.some.inj ho
        obtain rfl := Except.ok.inj (hw.symm.trans hp)
        exact ⟨author, ha, committer, hc, rfl⟩

/-- An accepted commit is read from a layout, and its payload is what is written. -/
theorem exists_layout {hash : String} {raw : Bytes} {c : CommitGate.Commit}
    (h : Commit.ofRaw hash raw = .ok c) :
    ∃ l : Layout, l.WellFormed ∧ l.bytes = raw ∧ l.object.withoutSignatures.write = .ok c.payload := by
  obtain ⟨o, payload, author, committer, read, written, -, -, rfl⟩ := ofRaw_eq_ok_iff.1 h
  obtain ⟨l, wellFormed, rfl, bytes⟩ := Object.read?_sound read
  exact ⟨l, wellFormed, bytes, written⟩

/-- The payload of an accepted commit is the raw commit without its signature headers exactly if the raw
commit is in canonical spelling. -/
theorem payload_eq_strip_iff {hash : String} {raw : Bytes} {c : CommitGate.Commit}
    (h : Commit.ofRaw hash raw = .ok c) :
    c.payload = stripSignatures raw ↔ IsCanonical raw := by
  obtain ⟨l, wellFormed, rfl, hw⟩ := exists_layout h
  obtain ⟨author, committer, ha, hc, hp⟩ := (write_withoutSignatures_iff wellFormed).1 hw
  obtain ⟨_, readAuthor⟩ := wellFormed.readAuthor
  obtain ⟨_, readCommitter⟩ := wellFormed.readCommitter
  have unsigned := Layout.wellFormed_of_mem_unsigned wellFormed
  have free : ∀ line ∈ fixedLines l.object author committer ++ l.unsigned.flatMap Block.written,
      0x0A ∉ line :=
    not_mem_fixedLines_append
      (not_mem_fixedLines wellFormed.tree wellFormed.parents (Identity.not_mem_of_write ha)
        (Identity.not_mem_of_write hc) wellFormed.encoding)
      fun b hb => Block.not_mem_written (unsigned b hb)
  have free' : ∀ line ∈ fixedLines l.object l.author l.committer ++ l.unsigned.flatMap Block.lines,
      0x0A ∉ line :=
    not_mem_fixedLines_append (Layout.not_mem_fixed wellFormed)
      fun b hb => Block.not_mem_lines (unsigned b hb)
  -- both texts end with the message, so they are equal if their lines are
  rw [hp, Layout.stripSignatures_bytes wellFormed, Bytes.unlines_inj free free', fixedLines_append_inj,
    Layout.isCanonical_iff wellFormed, Identity.write_of_read_iff readAuthor ha,
    Identity.write_of_read_iff readCommitter hc]

/-- A signed commit in canonical spelling loses its signature header and nothing else. -/
theorem payload_eq_strip_iff_canonical :
    let raw := unlines [fieldLine "tree" (List.replicate 40 0x61),
      Bytes.ofAscii "author Dev <dev@example.com> 1 +0100",
      Bytes.ofAscii "committer Dev <dev@example.com> 2 -0930",
      Bytes.ofAscii "gpgsig BEGIN", Bytes.ofAscii " ", Bytes.ofAscii " END", [], Bytes.ofAscii "Add"]
    ∃ c, Commit.ofRaw "abc123" raw = .ok c ∧ c.payload = stripSignatures raw ∧ IsCanonical raw := by
  intro raw
  have kept : (Commit.ofRaw "abc123" raw).toOption.map Commit.payload =
      some (stripSignatures raw) := by
    decide +kernel
  cases h : Commit.ofRaw "abc123" raw with
  | error fault =>
    rw [h] at kept
    cases kept
  | ok c =>
    rw [h] at kept
    have payload : c.payload = stripSignatures raw := Option.some.inj kept
    exact ⟨c, rfl, payload, (payload_eq_strip_iff h).1 payload⟩

/-- A commit whose author has no name is accepted, and a space comes into its payload. -/
theorem payload_ne_strip :
    let raw := unlines [fieldLine "tree" (List.replicate 40 0x61),
      Bytes.ofAscii "author <dev@example.com> 1 +0100",
      Bytes.ofAscii "committer Dev <dev@example.com> 2 -0930",
      Bytes.ofAscii "gpgsig BEGIN", Bytes.ofAscii " ", Bytes.ofAscii " END", [], Bytes.ofAscii "Add"]
    ∃ c, Commit.ofRaw "abc123" raw = .ok c ∧ c.payload ≠ stripSignatures raw := by
  intro raw
  have longer : (Commit.ofRaw "abc123" raw).toOption.map (fun c => c.payload.length) =
      some ((stripSignatures raw).length + 1) := by
    decide +kernel
  cases h : Commit.ofRaw "abc123" raw with
  | error fault =>
    rw [h] at longer
    cases longer
  | ok c =>
    rw [h] at longer
    have length : c.payload.length = (stripSignatures raw).length + 1 := Option.some.inj longer
    refine ⟨c, rfl, fun heq => ?_⟩
    rw [heq] at length
    omega

end CommitGate.Commit

import CommitGate.Proofs.Commit.Acceptance

/-! # Commits that are read as they were spelled

`Object.text` spells a commit: one line for each header and each further line of its value, and behind an
empty line the message. A commit with proper identities, hashes and headers (`Object.IsRegular`) is read
back from its spelling, whatever its message and however many signatures are among its headers:

* `read?_text`: nothing of the object is lost;
* `write_eq_ok_text`: what is written of it is its spelling;
* `ofRaw_text`: hence it is decoded as it was spelled, with its first signature, and what that covers is
  the spelling without any signature.
-/

namespace CommitGate.Commit

open Bytes (unlines)

/-! ## Spellings -/

/-- The header as it is spelled, one line for each line of its value. -/
def Header.block (h : Header) : Block where
  name := h.name
  first := (h.value.splitOn 0x0A).headD []
  more := (h.value.splitOn 0x0A).tail

/-- The header lines of a commit. -/
def Object.lines (o : Object) : List Bytes :=
  fixedLines o o.author.spelling o.committer.spelling ++ o.headers.flatMap fun h => h.block.lines

/-- The spelling of a commit: the header lines, an empty line and the message. -/
def Object.text (o : Object) : Bytes := unlines o.lines ++ 0x0A :: o.message

/-- The header has a spelling and no other place: its name can stand before a space and is not that of
the encoding, the first line of its value is not empty, and no carriage return is in the value. -/
structure Header.IsRegular (h : Header) : Prop where
  named : h.name ≠ []
  name : ∀ b ∈ h.name, b ≠ 0x20 ∧ b ≠ 0x0A
  placed : h.name ≠ Bytes.ofAscii "encoding"
  valued : h.block.first ≠ []
  value : 0x0D ∉ h.value

/-- The identity is acceptable, and its email address has no blank at its ends. -/
structure Identity.IsProper (i : Identity) : Prop extends i.IsAcceptable where
  trimmed : IsTrimmed i.email

/-- The parts of the commit can be spelled. The message may be anything. -/
structure Object.IsRegular (o : Object) : Prop where
  tree : IsHash o.tree
  parents : ∀ hash ∈ o.parents, IsHash hash
  author : o.author.IsProper
  committer : o.committer.IsProper
  encoding : ∀ encoding ∈ o.encoding, encoding ≠ [] ∧ 0x0A ∉ encoding
  headers : ∀ h ∈ o.headers, h.IsRegular

/-! ### Their parts -/

namespace Header

theorem lines_block (h : Header) : h.block.first :: h.block.more = h.value.splitOn 0x0A := by
  cases hs : h.value.splitOn 0x0A with
  | nil => exact absurd hs (List.splitOn_ne_nil _ _)
  | cons first more => simp [block, hs]

/-- No line of the value has a byte that the value has not, nor a line feed. -/
theorem of_mem_lines_block {h : Header} {line : Bytes} {b : UInt8}
    (hl : line ∈ h.block.first :: h.block.more) (hb : b ∈ line) : b ∈ h.value ∧ b ≠ 0x0A := by
  rw [lines_block] at hl
  exact of_mem_splitOn hl hb

namespace IsRegular

variable {h : Header}

theorem wellFormed (regular : h.IsRegular) : h.block.WellFormed where
  named := regular.named
  name := regular.name
  valued := regular.valued
  first hm := (of_mem_lines_block (List.mem_cons_self ..) hm).2 rfl
  more _ hl hm := (of_mem_lines_block (List.mem_cons_of_mem _ hl) hm).2 rfl

/-- No line of the spelled header ends with a carriage return. -/
theorem getLast?_ne (regular : h.IsRegular) :
    ∀ line ∈ h.block.first :: h.block.more, line.getLast? ≠ some 0x0D := by
  intro line hl last
  exact regular.value (of_mem_lines_block hl (List.mem_of_getLast? last)).1

/-- The spelled header is read as the header. -/
theorem header_block (regular : h.IsRegular) : h.block.header = h := by
  have lines := lines_block h
  have kept : (h.block.first :: h.block.more).map Object.dropReturn =
      h.block.first :: h.block.more :=
    map_eq_self fun line hl => dropReturn_eq_iff.2 (getLast?_ne regular line hl)
  have joined : [0x0A].intercalate (h.block.first :: h.block.more) = h.value := by
    rw [lines, List.intercalate_splitOn]
  -- a value of one line is taken as it is, and only one of several lines is joined again
  have value : (if h.block.more = [] then h.block.first
      else [0x0A].intercalate ((h.block.first :: h.block.more).map Object.dropReturn)) = h.value := by
    split
    · rename_i single
      rw [single] at joined
      simpa [List.intercalate] using joined
    · rw [kept, joined]
  rw [Block.header, value]
  rfl

end IsRegular

end Header

/-- A proper identity has a spelling that is read back. -/
theorem Identity.IsProper.isRegular {i : Identity} (h : i.IsProper) : i.IsRegular where
  name := h.name
  email := h.email
  trimmed := h.trimmed
  zone := Nat.lt_trans h.minutes_lt (by decide)

theorem Identity.write_spelling {i : Identity} (h : i.IsProper) : i.write = .ok i.spelling :=
  write_eq_ok_iff.2 ⟨h.name, h.email, h.isRegular.zone, rfl⟩

/-- A moment that has a timestamp fits into 64 bits. -/
theorem Identity.read_spelling_of_isProper {i : Identity} (h : i.IsProper) (rest : Bytes) :
    Identity.read (i.spelling ++ 0x0A :: rest) = some (i, 0x0A :: rest) := by
  have range : -(Nat.pow 2 63 : Int) ≤ Timestamp.firstSecond ∧
      Timestamp.lastSecond < Nat.pow 2 63 := by
    decide
  have moment := h.moment
  rw [read_spelling h.isRegular, if_pos]
  omega

/-- Hence it is determined by its spelling. -/
theorem Identity.spelling_inj {i j : Identity} (hi : i.IsProper) (hj : j.IsProper)
    (h : i.spelling = j.spelling) : i = j := by
  have read := read_spelling_of_isProper hi []
  rw [h, read_spelling_of_isProper hj] at read
  cases read
  rfl

/-! ## Readers in front of what they read -/

/-- There are no more headers than lines. -/
theorem Block.length_le_flatMap_lines (blocks : List Block) :
    blocks.length ≤ (blocks.flatMap Block.lines).length := by
  induction blocks with
  | nil => exact Nat.le_refl 0
  | cons b blocks ih =>
    simp only [List.flatMap_cons, List.length_append, List.length_cons, Block.lines]
    omega

namespace Object

theorem readField_fieldLine {α : Type} {name : String} {value : Bytes → Option (α × Bytes)}
    {text rest : Bytes} {x : α} (h : value (text ++ 0x0A :: rest) = some (x, 0x0A :: rest)) :
    readField name value (fieldLine name text ++ 0x0A :: rest) = some (x, rest) := by
  have field : literal (Bytes.ofAscii name ++ [0x20]) (fieldLine name text ++ 0x0A :: rest) =
      some (text ++ 0x0A :: rest) := literal_eq_some_iff.2 (by simp [fieldLine])
  have ends : literal [0x0A] (0x0A :: rest) = some rest := literal_eq_some_iff.2 rfl
  simp only [readField, field, h, ends, Option.bind_eq_bind, Option.bind_some]

theorem readHash_append {hash : Bytes} (h : IsHash hash) (rest : Bytes) :
    readHash (hash ++ rest) = some (hash, rest) := by
  have digits : (hash ++ rest).take 40 = hash := List.take_left' h.1
  have behind : (hash ++ rest).drop 40 = rest := List.drop_left' h.1
  simp only [readHash, digits, behind, h.1, h.2, decide_true, Bool.and_self, if_true]

theorem readLine_append {line : Bytes} (nonempty : line ≠ []) (free : 0x0A ∉ line) (rest : Bytes) :
    readLine (line ++ 0x0A :: rest) = some (line, 0x0A :: rest) := by
  have taken : (line ++ 0x0A :: rest).takeWhile (· != 0x0A) = line := takeWhile_ne free
  have shorter : line.length ≠ (line ++ 0x0A :: rest).length := by
    rw [List.length_append, List.length_cons]
    omega
  have goes : (line.isEmpty || decide (line.length = (line ++ 0x0A :: rest).length)) = false := by
    simp [nonempty]
  simp only [readLine, taken, goes, List.drop_left, Bool.false_eq_true, if_false]

/-- All parents are read, if no further one follows. -/
theorem readParents_unlines {hashes : List Bytes} {rest : Bytes} {fuel : Nat}
    (h : ∀ hash ∈ hashes, IsHash hash) (enough : hashes.length ≤ fuel)
    (ends : readField "parent" readHash rest = none) :
    readParents fuel (unlines (hashes.map (fieldLine "parent")) ++ rest) = (hashes, rest) := by
  -- on the parents; where they end, the reader stops whether fuel is left or not
  induction hashes generalizing fuel with
  | nil =>
    cases fuel with
    | zero => rfl
    | succ fuel => simp only [List.map_nil, Bytes.unlines_nil, List.nil_append, readParents, ends]
  | cons hash hashes ih =>
    cases fuel with
    | zero => cases enough
    | succ fuel =>
      have first : readField "parent" readHash (fieldLine "parent" hash ++
          0x0A :: (unlines (hashes.map (fieldLine "parent")) ++ rest)) =
          some (hash, unlines (hashes.map (fieldLine "parent")) ++ rest) :=
        readField_fieldLine (readHash_append (h hash (List.mem_cons_self ..)) _)
      have others := ih (fun x hx => h x (List.mem_cons_of_mem _ hx)) (Nat.le_of_succ_le_succ enough)
      simp only [List.map_cons, Bytes.unlines_cons, List.append_assoc, List.cons_append, readParents,
        first, others]

/-- All continuation lines are read, if no further one follows. -/
theorem readContinuation_unlines {lines : List Bytes} {rest : Bytes} {fuel : Nat}
    (h : ∀ line ∈ lines, 0x0A ∉ line) (enough : lines.length ≤ fuel)
    (ends : rest.head? ≠ some 0x20) :
    readContinuation fuel (unlines (lines.map (0x20 :: ·)) ++ rest) = (lines, rest) := by
  induction lines generalizing fuel with
  | nil =>
    cases fuel with
    | zero => rfl
    | succ fuel =>
      rw [List.map_nil, Bytes.unlines_nil, List.nil_append]
      cases rest with
      | nil => rfl
      | cons b rest =>
        have other : b ≠ 0x20 := fun h => ends (congrArg some h)
        simp only [readContinuation]
        split
        · rename_i heq
          exact absurd (List.cons.inj heq).1 other
        · rfl
  | cons line lines ih =>
    cases fuel with
    | zero => cases enough
    | succ fuel =>
      have free := h line (List.mem_cons_self ..)
      have others := ih (fun x hx => h x (List.mem_cons_of_mem _ hx)) (Nat.le_of_succ_le_succ enough)
      rw [List.map_cons, Bytes.unlines_cons, List.append_assoc, List.cons_append, List.cons_append]
      generalize unlines (lines.map (0x20 :: ·)) ++ rest = behind at *
      have taken : (line ++ 0x0A :: behind).takeWhile (· != 0x0A) = line := takeWhile_ne free
      have shorter : line.length ≠ (line ++ 0x0A :: behind).length := by
        rw [List.length_append, List.length_cons]
        omega
      simp only [readContinuation, taken, if_neg shorter, drop_cons, others]

/-- A header is read with all its lines, if no continuation line follows. -/
theorem readHeader_lines {b : Block} {rest : Bytes} (h : b.WellFormed)
    (ends : rest.head? ≠ some 0x20) :
    readHeader (unlines b.lines ++ rest) = some (b.header, rest) := by
  let behind := unlines (b.more.map (0x20 :: ·)) ++ rest
  have text : unlines b.lines ++ rest = b.name ++ 0x20 :: (b.first ++ 0x0A :: behind) := by
    simp [Block.lines, behind]
  have name : (b.name ++ 0x20 :: (b.first ++ 0x0A :: behind)).takeWhile
      (fun x => x != 0x20 && x != 0x0A) = b.name := by
    refine takeWhile_stop (fun x hx => ?_) (by decide)
    obtain ⟨space, feed⟩ := h.name x hx
    simp [space, feed]
  have named : (!b.name.isEmpty) = true := by
    simp [h.named]
  have space : literal [0x20] (0x20 :: (b.first ++ 0x0A :: behind)) = some (b.first ++ 0x0A :: behind) :=
    literal_eq_some_iff.2 rfl
  have feed : literal [0x0A] (0x0A :: behind) = some behind := literal_eq_some_iff.2 rfl
  have enough : b.more.length ≤ behind.length := by
    have lines := Bytes.length_le_unlines (b.more.map (0x20 :: ·))
    rw [List.length_map] at lines
    rw [List.length_append]
    omega
  have more : readContinuation behind.length behind = (b.more, rest) :=
    readContinuation_unlines h.more enough ends
  rw [text]
  simp only [readHeader, name, List.drop_left, space, readLine_append h.valued h.first, feed, more,
    Option.bind_eq_bind, Option.bind_some, named, guard, if_true]
  cases hm : b.more with
  | nil => simp [Block.header, hm, behind, pure]
  | cons line lines => simp [Block.header, hm, pure]

/-- All headers are read, if the empty line follows. -/
theorem readHeaders_unlines {blocks : List Block} {message : Bytes} {fuel : Nat}
    (h : ∀ b ∈ blocks, b.WellFormed) (enough : blocks.length ≤ fuel) :
    readHeaders fuel (unlines (blocks.flatMap Block.lines) ++ 0x0A :: message) =
      (blocks.map Block.header, 0x0A :: message) := by
  induction blocks generalizing fuel with
  | nil =>
    cases fuel with
    | zero => rfl
    | succ fuel => rfl
  | cons b blocks ih =>
    cases fuel with
    | zero => cases enough
    | succ fuel =>
      have hr : ∀ b' ∈ blocks, b'.WellFormed := fun b' hb => h b' (List.mem_cons_of_mem _ hb)
      have others := ih hr (Nat.le_of_succ_le_succ enough)
      -- what follows is the empty line, or begins with the name of the next header
      have ends : (unlines (blocks.flatMap Block.lines) ++ 0x0A :: message).head? ≠ some 0x20 := by
        cases blocks with
        | nil => simp
        | cons next blocks =>
          have begins := Block.isContinuation_first (hr next (List.mem_cons_self ..))
          have nonempty := (hr next (List.mem_cons_self ..)).named
          cases hn : next.name with
          | nil => exact absurd hn nonempty
          | cons x name =>
            rw [hn] at begins
            simpa [Block.lines, hn, isContinuation] using begins
      have first := readHeader_lines (h b (List.mem_cons_self ..)) ends
      rw [List.flatMap_cons, Bytes.unlines_append, List.append_assoc]
      simp only [readHeaders, first, others, List.map_cons]

/-- The encoding is read if it is there, and nothing else is taken for it. -/
theorem readEncoding_lines {encoding : Option Bytes} {rest : Bytes}
    (h : ∀ text ∈ encoding, text ≠ [] ∧ 0x0A ∉ text)
    (ends : readField "encoding" readLine rest = none) :
    readEncoding (unlines (encoding.toList.map (fieldLine "encoding")) ++ rest) = (encoding, rest) := by
  cases encoding with
  | none => simp only [Option.toList_none, List.map_nil, Bytes.unlines_nil, List.nil_append,
      readEncoding, ends]
  | some text =>
    obtain ⟨nonempty, free⟩ := h text rfl
    have found : readField "encoding" readLine (fieldLine "encoding" text ++ 0x0A :: rest) =
        some (text, rest) := readField_fieldLine (readLine_append nonempty free rest)
    simp only [Option.toList_some, List.map_cons, List.map_nil, Bytes.unlines_cons,
      Bytes.unlines_nil, List.append_assoc, List.cons_append, List.nil_append, readEncoding, found]

/-- A header with one name is not taken for one with another name. -/
theorem readField_other {α : Type} {name : String} {value : Bytes → Option (α × Bytes)}
    {other rest : Bytes} (plain : 0x20 ∉ Bytes.ofAscii name) (plain' : 0x20 ∉ other)
    (ne : other ≠ Bytes.ofAscii name) : readField name value (other ++ 0x20 :: rest) = none := by
  cases hf : readField name value (other ++ 0x20 :: rest) with
  | none => rfl
  | some found =>
    -- both names end at the first space
    obtain ⟨x, behind⟩ := found
    obtain ⟨text, -, heq⟩ := readField_sound hf
    have names := congrArg lineName heq
    rw [fieldLine, lineName_append plain', lineName_append plain] at names
    exact absurd names ne

/-! ## The round trip -/

theorem IsRegular.withoutSignatures {o : Object} (h : o.IsRegular) : o.withoutSignatures.IsRegular where
  tree := h.tree
  parents := h.parents
  author := h.author
  committer := h.committer
  encoding := h.encoding
  headers header hm := h.headers header (List.mem_filter.1 hm).1

/-- What is spelled behind the headers that have their own place. -/
def further (o : Object) : Bytes :=
  unlines ((o.headers.map Header.block).flatMap Block.lines) ++ 0x0A :: o.message

/-- The first of the further headers is not taken for an encoding. -/
theorem readField_encoding_further {o : Object} (h : o.IsRegular) :
    readField "encoding" readLine o.further = none := by
  unfold further
  cases hh : o.headers with
  | nil => rfl
  | cons first headers =>
    have regular := h.headers first (by simp [hh])
    have begins : unlines (((first :: headers).map Header.block).flatMap Block.lines) ++
        0x0A :: o.message = first.name ++ 0x20 :: (first.block.first ++ 0x0A ::
          (unlines (first.block.more.map (0x20 :: ·)) ++
            (unlines ((headers.map Header.block).flatMap Block.lines) ++ 0x0A :: o.message))) := by
      simp [Block.lines, Header.block]
    rw [begins]
    exact readField_other (by decide) regular.wellFormed.space_not_mem regular.placed

theorem readHeaders_further {o : Object} (h : o.IsRegular) :
    readHeaders o.further.length o.further = (o.headers, 0x0A :: o.message) := by
  have wellFormed : ∀ b ∈ o.headers.map Header.block, b.WellFormed := by
    intro b hb
    obtain ⟨header, hm, rfl⟩ := List.mem_map.1 hb
    exact (h.headers header hm).wellFormed
  have enough : (o.headers.map Header.block).length ≤ o.further.length := by
    have lines := Bytes.length_le_unlines ((o.headers.map Header.block).flatMap Block.lines)
    have blocks := Block.length_le_flatMap_lines (o.headers.map Header.block)
    rw [further, List.length_append]
    omega
  have same : (o.headers.map Header.block).map Block.header = o.headers := by
    rw [List.map_map]
    exact map_eq_self fun header hm => (h.headers header hm).header_block
  rw [further] at enough ⊢
  rw [readHeaders_unlines wellFormed enough, same]

/-- A commit is read back from its spelling. -/
theorem read?_text {o : Object} (h : o.IsRegular) : read? o.text = some o := by
  -- the text from each header on, from the last one to the first
  let afterCommitter := unlines (o.encoding.toList.map (fieldLine "encoding")) ++ o.further
  let afterAuthor := fieldLine "committer" o.committer.spelling ++ 0x0A :: afterCommitter
  let afterParents := fieldLine "author" o.author.spelling ++ 0x0A :: afterAuthor
  let afterTree := unlines (o.parents.map (fieldLine "parent")) ++ afterParents
  have text : o.text = fieldLine "tree" o.tree ++ 0x0A :: afterTree := by
    simp [Object.text, Object.lines, fixedLines, afterTree, afterParents, afterAuthor, afterCommitter,
      further, List.flatMap_map]
  have tree : readField "tree" readHash (fieldLine "tree" o.tree ++ 0x0A :: afterTree) =
      some (o.tree, afterTree) := readField_fieldLine (readHash_append h.tree _)
  have parents : readParents afterTree.length afterTree = (o.parents, afterParents) := by
    have enough := Bytes.length_le_unlines (o.parents.map (fieldLine "parent"))
    rw [List.length_map] at enough
    exact readParents_unlines h.parents (by rw [List.length_append]; omega) rfl
  have author : readField "author" Identity.read afterParents = some (o.author, afterAuthor) :=
    readField_fieldLine (Identity.read_spelling_of_isProper h.author _)
  have committer : readField "committer" Identity.read afterAuthor =
      some (o.committer, afterCommitter) :=
    readField_fieldLine (Identity.read_spelling_of_isProper h.committer _)
  have encoding : readEncoding afterCommitter = (o.encoding, o.further) :=
    readEncoding_lines h.encoding (readField_encoding_further h)
  have message : literal [0x0A] (0x0A :: o.message) = some o.message := literal_eq_some_iff.2 rfl
  rw [text]
  simp only [read?, tree, parents, author, committer, encoding, readHeaders_further h, message,
    Option.bind_eq_bind, Option.bind_some]

/-- What is written of a commit is its spelling. -/
theorem write_eq_ok_text {o : Object} (h : o.IsRegular) : o.write = .ok o.text := by
  have header : ∀ header : Header, writeHeader header = unlines header.block.lines := by
    intro header
    rw [writeHeader, ← Header.lines_block, writeField_intercalate]
    rfl
  have headers : o.headers.flatMap writeHeader = unlines (o.headers.flatMap fun h => h.block.lines) := by
    rw [unlines, List.flatMap_assoc]
    exact congrArg (List.flatMap · o.headers) (funext header)
  rw [write_eq, Identity.write_spelling h.author, Identity.write_spelling h.committer, headers,
    Object.text, Object.lines, Bytes.unlines_append]
  rfl

end Object

/-- The text of a hash is its digits. -/
theorem toStringLossy_of_isHash {hash : Bytes} (h : IsHash hash) :
    Utf8.toStringLossy hash = String.ofList (asciiChars hash) := by
  have ascii : ∀ b ∈ hash, b < 0x80 := by
    intro b hb
    have digit := List.all_eq_true.1 h.2 b hb
    simp only [Object.isHexDigit, Bytes.isDigit, Bool.or_eq_true, Bool.and_eq_true, decide_eq_true_eq,
      UInt8.le_iff_toNat_le, UInt8.reduceToNat] at digit
    have value : (0x80 : UInt8).toNat = 128 := rfl
    rw [UInt8.lt_iff_toNat_lt, value]
    omega
  rw [Utf8.toStringLossy, decodeLossy_of_ascii ascii]

/-- A commit that has been spelled is decoded: hashes, identities and message are those of the commit,
the signature is the text of the first header of signatures unless that is blank, and what it covers is
the spelling of the commit without any signature. -/
theorem ofRaw_text (hash : String) {o : Object} (h : o.IsRegular) :
    Commit.ofRaw hash o.text = .ok {
      hash
      tree := String.ofList (asciiChars o.tree)
      parents := o.parents.map fun parent => String.ofList (asciiChars parent)
      author := o.author.person
      committer := o.committer.person
      message := Utf8.toStringLossy o.message
      signature := ((o.headers.find? fun header => header.name == Object.signatureHeader).map
        fun header => Utf8.toStringLossy header.value).filter fun text => !Blank.isAllBlank text.toList
      payload := o.withoutSignatures.text } := by
  -- the object is read, written without its signatures, and its identities are dated
  refine ofRaw_eq_ok_iff.2 ⟨o, o.withoutSignatures.text, o.author.person, o.committer.person,
    Object.read?_text h, Object.write_eq_ok_text h.withoutSignatures,
    personOf_eq_ok_iff.2 ⟨h.author.toIsDated, rfl⟩, personOf_eq_ok_iff.2 ⟨h.committer.toIsDated, rfl⟩, ?_⟩
  have tree := toStringLossy_of_isHash h.tree
  have parents : o.parents.map Utf8.toStringLossy =
      o.parents.map fun parent => String.ofList (asciiChars parent) :=
    List.map_congr_left fun parent hm => toStringLossy_of_isHash (h.parents parent hm)
  have signature : o.signature?.bind signatureText =
      ((o.headers.find? fun header => header.name == Object.signatureHeader).map
        fun header => Utf8.toStringLossy header.value).filter
          fun text => !Blank.isAllBlank text.toList := by
    rw [Object.signature?]
    have same : (o.headers.find? fun header => header.name == Object.signatureHeader) =
        o.headers.find? Object.isSignature := rfl
    rw [same]
    cases o.headers.find? Object.isSignature with
    | none => rfl
    | some header =>
      simp only [Option.map_some, Option.bind_some, signatureText, Utf8.toStringLossy,
        Option.filter_some, String.toList_ofList]
      cases Blank.isAllBlank (Utf8.decodeLossy header.value) <;> rfl
  rw [tree, parents, signature]

/-- A commit with the same parent twice, a moment before 1970 and two signatures, the first of several
lines and neither the first header. -/
theorem ofRaw_text_two_signatures :
    let fixed := [fieldLine "tree" (List.replicate 40 0x61), fieldLine "parent" (List.replicate 40 0x62),
      fieldLine "parent" (List.replicate 40 0x62), Bytes.ofAscii "author Dev <dev@example.com> -1 -0930",
      Bytes.ofAscii "committer  <> 2 +0100", Bytes.ofAscii "encoding latin1"]
    let o : Object := {
      tree := List.replicate 40 0x61
      parents := [List.replicate 40 0x62, List.replicate 40 0x62]
      author := ⟨Bytes.ofAscii "Dev", Bytes.ofAscii "dev@example.com", -1, ⟨true, 570⟩⟩
      committer := ⟨[], [], 2, ⟨false, 60⟩⟩
      encoding := some (Bytes.ofAscii "latin1")
      headers := [⟨Bytes.ofAscii "mergetag", Bytes.ofAscii "a\nb"⟩,
        ⟨Object.signatureHeader, Bytes.ofAscii "BEGIN\n\nEND"⟩,
        ⟨Object.signatureHeader, Bytes.ofAscii "other"⟩]
      message := Bytes.ofAscii "\ntree" }
    o.IsRegular ∧
      o.text = unlines (fixed ++ [Bytes.ofAscii "mergetag a", Bytes.ofAscii " b",
        Bytes.ofAscii "gpgsig BEGIN", Bytes.ofAscii " ", Bytes.ofAscii " END", Bytes.ofAscii "gpgsig other",
        [], []]) ++ Bytes.ofAscii "tree" ∧
      ∃ c, Commit.ofRaw "abc123" o.text = .ok c ∧ c.author.timestamp = ⟨-1, 0, -34200⟩ ∧
        c.payload = unlines (fixed ++ [Bytes.ofAscii "mergetag a", Bytes.ofAscii " b", [], []]) ++
          Bytes.ofAscii "tree" := by
  intro fixed o
  have tree : IsHash (List.replicate 40 0x61) := ⟨rfl, rfl⟩
  have parents : ∀ hash ∈ o.parents, IsHash hash := by
    simp only [o, List.forall_mem_cons, List.not_mem_nil, false_implies, implies_true, and_true]
    exact ⟨⟨rfl, rfl⟩, ⟨rfl, rfl⟩⟩
  have author : o.author.IsProper :=
    ⟨⟨⟨by decide, by decide⟩, by decide, by decide⟩, by decide +kernel, by decide +kernel⟩
  have committer : o.committer.IsProper :=
    ⟨⟨⟨by decide, by decide⟩, by decide, by decide⟩, by decide +kernel, by decide +kernel⟩
  have header : ∀ h ∈ o.headers, h.IsRegular := by
    simp only [o, List.forall_mem_cons, List.not_mem_nil, false_implies, implies_true, and_true]
    refine ⟨?mergetag, ?first, ?second⟩
    all_goals exact ⟨by decide, by decide +kernel, by decide, by decide, by decide⟩
  have regular : o.IsRegular := ⟨tree, parents, author, committer, by decide +kernel, header⟩
  exact ⟨regular, by decide +kernel, _, ofRaw_text "abc123" regular, rfl, by decide +kernel⟩

end CommitGate.Commit

import CommitGate.Outcome.Basic
import CommitGate.Proofs.Commit.RoundTrip

/-! # What the payload says of the published commit

What is published of a commit is read from the raw commit, but what its signature covers is the payload,
which is written anew. The two do not disagree:

* `lineName_ne_of_mem_headerLines`: the payload has no signature header;
* `commit_of_payload`: if the payload is accepted as a commit, then as the same one, unsigned;
* `commit_of_payload_eq`: commits with the same payload differ in their hashes and signatures only.

`payload_determines` puts this together. A payload need not be written again as it is: of a line that ends
with two carriage returns, each writing drops one.
-/

namespace CommitGate.Commit

open Bytes (unlines)

/-! ## The lines of a payload -/

/-- A line of a header that is written begins that header or continues it. -/
theorem Block.of_mem_written {b : Block} {line : Bytes} (h : line ∈ b.written) :
    ∃ text, line = b.name ++ 0x20 :: text ∨ line = 0x20 :: text := by
  unfold written lines at h
  split at h
  · rcases List.mem_cons.1 h with rfl | h
    · exact ⟨_, .inl rfl⟩
    · obtain ⟨more, -, rfl⟩ := List.mem_map.1 h
      exact ⟨_, .inr rfl⟩
  · rcases List.mem_cons.1 h with rfl | h
    · exact ⟨_, .inl rfl⟩
    · obtain ⟨more, -, rfl⟩ := List.mem_map.1 h
      exact ⟨_, .inr rfl⟩

namespace Layout

/-- The header lines of the payload. -/
def payloadLines (l : Layout) : List Bytes :=
  fixedLines l.object l.object.author.spelling l.object.committer.spelling ++
    l.unsigned.flatMap Block.written

/-- What a signature covers. -/
def payload (l : Layout) : Bytes := unlines l.payloadLines ++ 0x0A :: l.object.message

/-- The layout is that of a commit that is accepted. -/
structure IsAccepted (l : Layout) : Prop extends l.WellFormed where
  properAuthor : l.object.author.IsProper
  properCommitter : l.object.committer.IsProper

end Layout

/-- What is known of a line in front of a message: it is not empty and has no line feed. -/
structure IsHeaderLine (line : Bytes) : Prop where
  nonempty : line ≠ []
  free : 0x0A ∉ line

/-- A text of header lines and a message is determined by them, and determines them. -/
theorem text_inj {lines lines' : List Bytes} {message message' : Bytes}
    (h : ∀ line ∈ lines, IsHeaderLine line) (h' : ∀ line ∈ lines', IsHeaderLine line)
    (heq : unlines lines ++ 0x0A :: message = unlines lines' ++ 0x0A :: message') :
    lines = lines' ∧ message = message' := by
  have headers := congrArg headerLines heq
  rw [headerLines_text (fun l hl => (h l hl).free) fun l hl => (h l hl).nonempty,
    headerLines_text (fun l hl => (h' l hl).free) fun l hl => (h' l hl).nonempty] at headers
  subst headers
  exact ⟨rfl, (List.cons.inj (List.append_cancel_left heq)).2⟩

namespace Layout

theorem isHeaderLine_of_mem_lines {l : Layout} (h : l.WellFormed) :
    ∀ line ∈ l.lines, IsHeaderLine line :=
  fun line hl => ⟨nonempty_of_mem_lines hl, not_mem_lines h line hl⟩

theorem isHeaderLine_of_mem_payloadLines {l : Layout} (h : l.IsAccepted) :
    ∀ line ∈ l.payloadLines, IsHeaderLine line := by
  have author : 0x0A ∉ l.object.author.spelling :=
    Identity.not_mem_of_write (Identity.write_spelling h.properAuthor)
  have committer : 0x0A ∉ l.object.committer.spelling :=
    Identity.not_mem_of_write (Identity.write_spelling h.properCommitter)
  have free : ∀ line ∈ l.payloadLines, 0x0A ∉ line :=
    not_mem_fixedLines_append (not_mem_fixedLines h.tree h.parents author committer h.encoding)
      fun b hb => Block.not_mem_written (wellFormed_of_mem_unsigned h.toWellFormed b hb)
  intro line hl
  refine ⟨?_, free line hl⟩
  rcases List.mem_append.1 hl with hl | hl
  · exact (isPlainLine_of_mem_fixedLines hl).nonempty
  · obtain ⟨b, -, hl⟩ := List.mem_flatMap.1 hl
    obtain ⟨text, rfl | rfl⟩ := Block.of_mem_written hl <;> simp

end Layout

/-- No header that has its own place is named as a signature. -/
theorem lineName_ne_of_mem_fixedLines {o : Object} {author committer line : Bytes}
    (h : line ∈ fixedLines o author committer) : lineName line ≠ Object.signatureHeader := by
  simp only [fixedLines, List.cons_append, List.mem_cons, List.mem_append, List.mem_map,
    List.not_mem_nil, or_false] at h
  rcases h with rfl | (⟨hash, -, rfl⟩ | rfl | rfl) | ⟨encoding, -, rfl⟩
  all_goals
    rw [fieldLine, lineName_append (by decide)]
    decide

namespace Layout

theorem lineName_ne_of_mem_payloadLines {l : Layout} (h : l.WellFormed) :
    ∀ line ∈ l.payloadLines, lineName line ≠ Object.signatureHeader := by
  intro line hl
  rcases List.mem_append.1 hl with hl | hl
  · exact lineName_ne_of_mem_fixedLines hl
  · obtain ⟨b, hb, hl⟩ := List.mem_flatMap.1 hl
    have unsigned : b.name ≠ Object.signatureHeader := by
      simpa [Object.isSignature, Block.header] using (List.mem_filter.1 hb).2
    obtain ⟨text, rfl | rfl⟩ := Block.of_mem_written hl
    · rwa [lineName_append (wellFormed_of_mem_unsigned h b hb).space_not_mem]
    · intro heq
      cases heq

end Layout

/-! ## Accepted commits -/

/-- The commit that is decoded from an object. -/
def Object.commit (o : Object) (hash : String) (payload : Bytes) : CommitGate.Commit where
  hash := hash
  tree := Utf8.toStringLossy o.tree
  parents := o.parents.map Utf8.toStringLossy
  author := o.author.person
  committer := o.committer.person
  message := Utf8.toStringLossy o.message
  signature := o.signature?.bind signatureText
  payload := payload

/-- An accepted commit is decoded from a layout, and so is what its signature covers. -/
theorem exists_accepted {hash : String} {raw : Bytes} {c : CommitGate.Commit}
    (h : Commit.ofRaw hash raw = .ok c) :
    ∃ l : Layout, l.IsAccepted ∧ l.bytes = raw ∧ c = l.object.commit hash l.payload := by
  obtain ⟨o, payload, author, committer, read, written, ha, hc, rfl⟩ := ofRaw_eq_ok_iff.1 h
  obtain ⟨l, wellFormed, rfl, bytes⟩ := Object.read?_sound read
  obtain ⟨accepted, acceptedCommitter⟩ := (ofRaw_of_read read).1 ⟨_, h⟩
  -- the reader trims email addresses, so accepted identities are proper
  obtain ⟨_, readAuthor⟩ := wellFormed.readAuthor
  obtain ⟨_, readCommitter⟩ := wellFormed.readCommitter
  obtain ⟨_, -, -, trimmed⟩ := Identity.read_sound readAuthor
  obtain ⟨_, -, -, trimmed'⟩ := Identity.read_sound readCommitter
  have properAuthor : l.object.author.IsProper := ⟨accepted, trimmed⟩
  have properCommitter : l.object.committer.IsProper := ⟨acceptedCommitter, trimmed'⟩
  obtain ⟨text, text', ht, ht', rfl⟩ := (write_withoutSignatures_iff wellFormed).1 written
  obtain rfl := (Identity.write_eq_ok_iff.1 ht).2.2.2
  obtain rfl := (Identity.write_eq_ok_iff.1 ht').2.2.2
  obtain rfl := (personOf_eq_ok_iff.1 ha).2
  obtain rfl := (personOf_eq_ok_iff.1 hc).2
  exact ⟨l, ⟨wellFormed, properAuthor, properCommitter⟩, bytes, rfl⟩

/-- The header lines of a payload begin no signature. -/
theorem lineName_ne_of_mem_headerLines {hash : String} {raw : Bytes} {c : CommitGate.Commit}
    (h : Commit.ofRaw hash raw = .ok c) :
    ∀ line ∈ headerLines c.payload, lineName line ≠ Object.signatureHeader := by
  obtain ⟨l, accepted, -, rfl⟩ := exists_accepted h
  have lines := Layout.isHeaderLine_of_mem_payloadLines accepted
  have headers : headerLines l.payload = l.payloadLines :=
    headerLines_text (fun line hl => (lines line hl).free) (fun line hl => (lines line hl).nonempty) _
  intro line hl
  have inside : line ∈ l.payloadLines := headers ▸ hl
  exact Layout.lineName_ne_of_mem_payloadLines accepted.toWellFormed line inside

/-! ## What the lines tell of the commit -/

theorem fieldLine_inj {name : String} {text text' : Bytes}
    (h : fieldLine name text = fieldLine name text') : text = text' :=
  (List.cons.inj (List.append_cancel_left h)).2

/-- The parents end where the author's line begins. -/
theorem parents_inj {hashes hashes' : List Bytes} {author author' : Bytes} {rest rest' : List Bytes}
    (h : hashes.map (fieldLine "parent") ++ fieldLine "author" author :: rest =
      hashes'.map (fieldLine "parent") ++ fieldLine "author" author' :: rest') :
    hashes = hashes' ∧ author = author' ∧ rest = rest' := by
  have other : ∀ hash text, fieldLine "parent" hash ≠ fieldLine "author" text := by
    intro hash text heq
    cases (List.cons.inj heq).1
  -- on the parents: their lines are taken off one by one on both sides
  induction hashes generalizing hashes' with
  | nil =>
    cases hashes' with
    | nil =>
      obtain ⟨author, rest⟩ := List.cons.inj h
      exact ⟨rfl, fieldLine_inj author, rest⟩
    | cons hash' hashes' => exact absurd (List.cons.inj h).1.symm (other _ _)
  | cons hash hashes ih =>
    cases hashes' with
    | nil => exact absurd (List.cons.inj h).1 (other _ _)
    | cons hash' hashes' =>
      obtain ⟨first, others⟩ := List.cons.inj h
      obtain ⟨rfl, same⟩ := ih others
      exact ⟨by rw [fieldLine_inj first], same⟩

/-- The lines of the headers that have their own place determine what stands in them. -/
theorem fixedLines_inj {o o' : Object} {author author' committer committer' : Bytes}
    {rest rest' : List Bytes}
    (h : fixedLines o author committer ++ rest = fixedLines o' author' committer' ++ rest') :
    o.tree = o'.tree ∧ o.parents = o'.parents ∧ author = author' ∧ committer = committer' := by
  simp only [fixedLines, List.cons_append, List.append_assoc, List.nil_append] at h
  obtain ⟨tree, others⟩ := List.cons.inj h
  obtain ⟨parents, author, others⟩ := parents_inj others
  exact ⟨fieldLine_inj tree, parents, author, fieldLine_inj (List.cons.inj others).1⟩

/-- Both objects have the same tree, parents, identities and message. -/
structure Object.Agrees (o o' : Object) : Prop where
  tree : o.tree = o'.tree
  parents : o.parents = o'.parents
  author : o.author = o'.author
  committer : o.committer = o'.committer
  message : o.message = o'.message

/-- Then the commits differ in their hashes, signatures and payloads only. -/
theorem Object.Agrees.commit_eq {o o' : Object} (h : o.Agrees o') (hash hash' : String)
    (payload payload' : Bytes) :
    o'.commit hash' payload' = { o.commit hash payload with
      hash := hash', signature := o'.signature?.bind signatureText, payload := payload' } := by
  simp only [commit, h.tree, h.parents, h.author, h.committer, h.message]

namespace Layout

/-- A layout whose text is the payload of another agrees with it. -/
theorem agrees_of_bytes {l l' : Layout} (h : l.IsAccepted) (h' : l'.WellFormed)
    (heq : l'.bytes = l.payload) : l.object.Agrees l'.object := by
  obtain ⟨lines, message⟩ := text_inj (isHeaderLine_of_mem_lines h')
    (isHeaderLine_of_mem_payloadLines h) heq
  obtain ⟨tree, parents, author, committer⟩ := fixedLines_inj lines
  obtain ⟨_, readAuthor⟩ := h'.readAuthor
  obtain ⟨_, readCommitter⟩ := h'.readCommitter
  -- the identities are read from the spellings of those that were read before
  rw [author, Identity.read_spelling_of_isProper h.properAuthor] at readAuthor
  rw [committer, Identity.read_spelling_of_isProper h.properCommitter] at readCommitter
  exact ⟨tree.symm, parents.symm, (Prod.mk.inj (Option.some.inj readAuthor)).1,
    (Prod.mk.inj (Option.some.inj readCommitter)).1, message.symm⟩

/-- Its headers carry no signature. -/
theorem signature?_eq_none {l l' : Layout} (h : l.IsAccepted) (h' : l'.WellFormed)
    (heq : l'.bytes = l.payload) : l'.object.signature? = none := by
  obtain ⟨lines, -⟩ := text_inj (isHeaderLine_of_mem_lines h')
    (isHeaderLine_of_mem_payloadLines h) heq
  rw [Object.signature?, Option.map_eq_none_iff, List.find?_eq_none, h'.headers]
  intro header hm
  obtain ⟨b, hb, rfl⟩ := List.mem_map.1 hm
  -- the first line of a header is one of the payload's
  have first : b.name ++ 0x20 :: b.first ∈ l.payloadLines := by
    rw [← lines]
    exact List.mem_append.2 (.inr (List.mem_flatMap.2 ⟨b, hb, List.mem_cons_self ..⟩))
  have name := lineName_ne_of_mem_payloadLines h.toWellFormed _ first
  rw [lineName_append (h'.blocks b hb).space_not_mem] at name
  simpa [Object.isSignature, Block.header] using name

/-- Layouts with the same payload agree. -/
theorem agrees_of_payload_eq {l l' : Layout} (h : l.IsAccepted) (h' : l'.IsAccepted)
    (heq : l'.payload = l.payload) : l.object.Agrees l'.object := by
  obtain ⟨lines, message⟩ := text_inj (isHeaderLine_of_mem_payloadLines h')
    (isHeaderLine_of_mem_payloadLines h) heq
  obtain ⟨tree, parents, author, committer⟩ := fixedLines_inj lines
  exact ⟨tree.symm, parents.symm, Identity.spelling_inj h.properAuthor h'.properAuthor author.symm,
    Identity.spelling_inj h.properCommitter h'.properCommitter committer.symm, message.symm⟩

end Layout

/-! ## The published commit -/

variable {hash hash' : String} {raw raw' : Bytes} {c c' : CommitGate.Commit}

/-- A payload that is accepted as a commit is the same commit without a signature. -/
theorem commit_of_payload (h : Commit.ofRaw hash raw = .ok c)
    (h' : Commit.ofRaw hash' c.payload = .ok c') :
    c' = { c with hash := hash', signature := none, payload := c'.payload } := by
  obtain ⟨l, accepted, -, rfl⟩ := exists_accepted h
  obtain ⟨l', accepted', bytes, rfl⟩ := exists_accepted h'
  have agrees := Layout.agrees_of_bytes accepted accepted'.toWellFormed bytes
  have unsigned := Layout.signature?_eq_none accepted accepted'.toWellFormed bytes
  rw [agrees.commit_eq hash hash' l.payload, unsigned]
  rfl

/-- Commits with the same payload have all but their hashes and signatures in common. -/
theorem commit_of_payload_eq (h : Commit.ofRaw hash raw = .ok c)
    (h' : Commit.ofRaw hash' raw' = .ok c') (heq : c'.payload = c.payload) :
    c' = { c with hash := hash', signature := c'.signature } := by
  obtain ⟨l, accepted, -, rfl⟩ := exists_accepted h
  obtain ⟨l', accepted', -, rfl⟩ := exists_accepted h'
  have agrees := Layout.agrees_of_payload_eq accepted accepted' heq
  have payload : l'.payload = l.payload := heq
  rw [agrees.commit_eq hash hash' l.payload, payload]
  rfl

/-- What is published of an accepted commit is what its payload says. The payload has no signature header;
if it is accepted itself, then as the same commit without a signature; and of two commits with the same
payload, whatever else the raw commits have, the same is published but for the hash and the mark that
tells whether there is a signature. -/
theorem payload_determines (h : Commit.ofRaw hash raw = .ok c) :
    (∀ line ∈ headerLines c.payload, lineName line ≠ Object.signatureHeader) ∧
    (∀ hash' c', Commit.ofRaw hash' c.payload = .ok c' →
      c' = { c with hash := hash', signature := none, payload := c'.payload }) ∧
    ∀ hash' raw' c', Commit.ofRaw hash' raw' = .ok c' → c'.payload = c.payload →
      c'.snapshot = { c.snapshot with hash := hash', signed := c'.isSigned } := by
  refine ⟨lineName_ne_of_mem_headerLines h, fun hash' c' h' => commit_of_payload h h', ?_⟩
  intro hash' raw' c' h' heq
  rw [commit_of_payload_eq h h' heq]
  rfl

/-- A commit that is signed anew, with its author spelled in another way, keeps its payload. -/
theorem payload_determines_signed_anew :
    let raw (author signature : String) := unlines [fieldLine "tree" (List.replicate 40 0x61),
      Bytes.ofAscii author, Bytes.ofAscii "committer Dev <dev@example.com> 2 -0930",
      Bytes.ofAscii signature, Bytes.ofAscii " ", Bytes.ofAscii " END", [], Bytes.ofAscii "Add"]
    let first := raw "author Dev <dev@example.com> 1 +0100" "gpgsig BEGIN"
    let second := raw "author Dev < dev@example.com > 01 ++0100" "gpgsig OTHER"
    ∃ c c' unsigned, Commit.ofRaw "abc123" first = .ok c ∧ Commit.ofRaw "def456" second = .ok c' ∧
      c'.payload = c.payload ∧ Commit.ofRaw "789abc" c.payload = .ok unsigned ∧
      unsigned = { c with hash := "789abc", signature := none, payload := unsigned.payload } ∧
      c'.snapshot = { c.snapshot with hash := "def456", signed := c'.isSigned } := by
  intro raw first second
  have accepted : (Commit.ofRaw "abc123" first).toOption.any
      (·.payload == stripSignatures first) = true := by
    decide +kernel
  have accepted' : (Commit.ofRaw "def456" second).toOption.any
      (·.payload == stripSignatures first) = true := by
    decide +kernel
  have again : (Commit.ofRaw "789abc" (stripSignatures first)).toOption.any (fun _ => true) = true := by
    decide +kernel
  obtain ⟨c, h, payload⟩ := any_toOption_iff.1 accepted
  obtain ⟨c', h', payload'⟩ := any_toOption_iff.1 accepted'
  obtain ⟨unsigned, hu, -⟩ := any_toOption_iff.1 again
  rw [beq_iff_eq] at payload payload'
  have same : c'.payload = c.payload := payload'.trans payload.symm
  rw [← payload] at hu
  obtain ⟨-, alone, published⟩ := payload_determines h
  exact ⟨c, c', unsigned, h, h', same, hu, alone _ _ hu, published _ _ _ h' same⟩

end CommitGate.Commit

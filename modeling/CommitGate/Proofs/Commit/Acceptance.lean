import CommitGate.Commit.Basic
import CommitGate.Proofs.Commit.Payload
import CommitGate.Proofs.Timestamp
import CommitGate.Text.Hex

/-! # Which raw commits are accepted

A raw commit is read, written again without its signatures, and dated. Each step may refuse it; none may
stop short of an answer:

* `Object.writeAsserting` writes a commit and tests on the way what a writer of binary hashes and machine
  numbers takes for granted; `writeAsserting_withoutSignatures`: for what has been read, all of it holds;
* `ofRaw_isOk_iff`: a commit is accepted exactly if it is read and both identities are acceptable;
* `exists_commitAccess`: any other is refused with one kind of fault.

`ofRaw_total` puts this together.
-/

namespace CommitGate.Commit

/-! ## What a writer takes for granted -/

/-- Something that a writer takes for granted, and stops at when it does not hold. -/
inductive Breach where
  /-- A hash has not the digits of twenty bytes. -/
  | hash (text : Bytes)
  /-- A number does not fit into so many bits. -/
  | number (bits : Nat) (n : Int)
  /-- A text encoding is empty or does not fit into a line. -/
  | encoding (text : Bytes)
deriving DecidableEq, Repr

/-- A hash as it is written from its twenty bytes. -/
def assertHash (text : Bytes) : Except Breach Bytes :=
  match Hex.decode? (asciiChars text) with
  | some hash => if hash.length = 20 then .ok (Utf8.ofString (Hex.lower hash)) else .error (.hash text)
  | none => .error (.hash text)

/-- A number that fits into a signed word. -/
def assertFits (bits : Nat) (n : Int) : Except Breach Unit :=
  if -(Nat.pow 2 (bits - 1) : Int) ≤ n ∧ n < Nat.pow 2 (bits - 1) then .ok () else .error (.number bits n)

/-- A text encoding that can stand in a header of one line. -/
def assertLine (text : Bytes) : Except Breach Unit :=
  if text ≠ [] ∧ 0x0A ∉ text then .ok () else .error (.encoding text)

/-- Seconds are words of 64 bits, the offsets of zones words of 32 bits. -/
def Identity.assertWords (i : Identity) : Except Breach Unit := do
  assertFits 64 i.seconds
  assertFits 32 i.zone.offset

/-- Write a commit, and test all that is taken for granted of it. -/
def Object.writeAsserting (o : Object) : Except Breach (Except WriteError Bytes) := do
  let tree ← assertHash o.tree
  let parents ← o.parents.mapM assertHash
  o.author.assertWords
  o.committer.assertWords
  o.encoding.forM assertLine
  pure { o with tree, parents }.write

/-! ### Hashes -/

/-- Each digit of a hash is read back from its value. -/
theorem digit_of_isHexDigit {b : UInt8} (h : Object.isHexDigit b = true) :
    ∃ v < 16, Hex.value? (Char.ofNat b.toNat) = some v ∧ Utf8.encodeChar (Hex.digit 'a' v) = [b] := by
  have all : ∀ n < 256, Object.isHexDigit (UInt8.ofNat n) = true →
      ∃ v < 16, Hex.value? (Char.ofNat n) = some v ∧
        Utf8.encodeChar (Hex.digit 'a' v) = [UInt8.ofNat n] := by
    decide +kernel
  simpa using all b.toNat b.toNat_lt (by simpa using h)

theorem decode?_of_isHexDigit {bs : Bytes} {n : Nat} (length : bs.length = 2 * n)
    (digits : ∀ b ∈ bs, Object.isHexDigit b = true) :
    ∃ hash, hash.length = n ∧ Hex.decode? (asciiChars bs) = some hash ∧
      Utf8.encode (hash.flatMap (Hex.byte 'a')) = bs := by
  -- on the number of bytes, two digits each
  induction n generalizing bs with
  | zero => exact ⟨[], rfl, by rw [List.eq_nil_of_length_eq_zero length]; rfl, by
      rw [List.eq_nil_of_length_eq_zero length]; rfl⟩
  | succ n ih =>
    match bs, length with
    | high :: low :: rest, length =>
      have shorter : rest.length = 2 * n := by
        simp only [List.length_cons] at length
        omega
      obtain ⟨hash, hl, hd, he⟩ := ih shorter fun b hb =>
        digits b (List.mem_cons_of_mem _ (List.mem_cons_of_mem _ hb))
      obtain ⟨v, hv, readHigh, writeHigh⟩ := digit_of_isHexDigit (digits high (by simp))
      obtain ⟨w, hw, readLow, writeLow⟩ := digit_of_isHexDigit (digits low (by simp))
      have small : (UInt8.ofNat (v * 16 + w)).toNat = v * 16 + w :=
        UInt8.toNat_ofNat_of_lt' (by simp only [UInt8.size]; omega)
      have quotient : (v * 16 + w) / 16 = v := by omega
      have remainder : (v * 16 + w) % 16 = w := by omega
      refine ⟨UInt8.ofNat (v * 16 + w) :: hash, by simp [hl], ?_, ?_⟩
      · have hd : Hex.decode? (rest.map fun b => Char.ofNat b.toNat) = some hash := hd
        simp [asciiChars, Hex.decode?, readHigh, readLow, hd]
      · rw [List.flatMap_cons, Utf8.encode, List.flatMap_append, ← Utf8.encode, ← Utf8.encode, he,
          Hex.byte, small, quotient, remainder]
        simp [Utf8.encode, writeHigh, writeLow]

/-- A hash is written from its bytes as it was read. -/
theorem assertHash_of_isHash {hash : Bytes} (h : IsHash hash) : assertHash hash = .ok hash := by
  obtain ⟨bytes, length, read, written⟩ :=
    decode?_of_isHexDigit (n := 20) h.1 (List.all_eq_true.1 h.2)
  simp [assertHash, read, length, Utf8.ofString, Hex.lower, written]

/-! ### Numbers -/

/-- Two digits denote a number below 100. -/
theorem ofDigits_lt_hundred {bs : Bytes} (digits : ∀ b ∈ bs, Bytes.isDigit b = true)
    (length : bs.length ≤ 2) : Decimal.ofDigits (asciiChars bs) < 100 := by
  have value : ∀ b, Bytes.isDigit b = true → Decimal.digitValue (Char.ofNat b.toNat) ≤ 9 := by
    intro b hb
    have all : ∀ n < 256, Bytes.isDigit (UInt8.ofNat n) = true →
        Decimal.digitValue (Char.ofNat n) ≤ 9 := by
      decide +kernel
    exact all b.toNat b.toNat_lt (by simpa using hb)
  match bs, length with
  | [], _ => decide
  | [a], _ =>
    have ha := value a (digits a (by simp))
    simp only [asciiChars, Decimal.ofDigits, List.map_cons, List.map_nil, List.foldl_cons,
      List.foldl_nil]
    omega
  | [a, b], _ =>
    have ha := value a (digits a (by simp))
    have hb := value b (digits b (by simp))
    simp only [asciiChars, Decimal.ofDigits, List.map_cons, List.map_nil, List.foldl_cons,
      List.foldl_nil]
    omega

/-- Hours and minutes have two digits at most, so no zone is further away than 99 hours and 99
minutes. -/
theorem minutes_of_readZone {bs rest : Bytes} {z : Zone} (h : Identity.readZone bs = some (z, rest)) :
    z.minutes ≤ 99 * 60 + 99 := by
  simp only [Identity.readZone, Option.bind_eq_bind, Option.bind_eq_some_iff, guard_eq_some_iff,
    Option.some.injEq, Prod.mk.injEq] at h
  obtain ⟨sign, -, -, -, -, -, rfl, -⟩ := h
  generalize hd : (bs.dropWhile (· == sign)).takeWhile Bytes.isDigit = digits
  have all : ∀ b ∈ digits, Bytes.isDigit b = true := fun b hb => of_mem_takeWhile (hd ▸ hb)
  dsimp only
  split
  · have hours := ofDigits_lt_hundred (fun b hb => all b (List.mem_of_mem_take hb))
      (List.length_take_le 2 digits)
    have minutes := ofDigits_lt_hundred (fun b hb => all b (List.mem_of_mem_drop hb))
      (show (digits.drop 2).length ≤ 2 by rw [List.length_drop]; omega)
    omega
  · omega

theorem seconds_of_readSeconds {bs rest : Bytes} {n : Int}
    (h : Identity.readSeconds bs = some (n, rest)) :
    -(Nat.pow 2 63 : Int) ≤ n ∧ n < Nat.pow 2 63 := by
  simp only [Identity.readSeconds, Option.bind_eq_bind, Option.bind_eq_some_iff, guard_eq_some_iff,
    Option.some.injEq, Prod.mk.injEq] at h
  obtain ⟨-, -, m, -, -, bounds, rfl, -⟩ := h
  simpa using bounds

/-- What is read as an identity fits into machine words. -/
theorem assertWords_of_read {bs rest : Bytes} {i : Identity}
    (h : Identity.read bs = some (i, rest)) : i.assertWords = .ok () := by
  simp only [Identity.read, Option.bind_eq_bind, Option.bind_eq_some_iff] at h
  obtain ⟨⟨⟨name, email⟩, bs1⟩, -, bs2, -, ⟨seconds, bs3⟩, hn, ⟨zone, bs4⟩, hz, h⟩ := h
  cases h
  have moment : assertFits 64 seconds = .ok () := if_pos (seconds_of_readSeconds hn)
  have offset : assertFits 32 zone.offset = .ok () := by
    have := minutes_of_readZone hz
    refine if_pos ?_
    simp only [Zone.offset]
    split <;> simp only [Nat.reduceSub, Nat.pow_eq, Nat.reducePow] <;> omega
  rw [Identity.assertWords, moment]
  exact offset

/-! ### Commits -/

/-- An encoding that has been read is a line of some length. -/
theorem assertLine_of_read {raw : Bytes} {o : Object} (h : Object.read? raw = some o) :
    o.encoding.forM assertLine = .ok () := by
  simp only [Object.read?, Option.bind_eq_bind, Option.bind_eq_some_iff] at h
  obtain ⟨_, -, _, -, ⟨_, rest⟩, -, _, -, h⟩ := h
  obtain rfl := Option.some.inj h
  dsimp only
  rw [Object.readEncoding]
  split
  · rename_i encoding _ found
    obtain ⟨_, value, -⟩ := Object.readField_sound found
    obtain ⟨-, nonempty, free⟩ := Object.readLine_sound value
    exact if_pos ⟨nonempty, free⟩
  · rfl

theorem mapM_assertHash {hashes : List Bytes} (h : ∀ hash ∈ hashes, IsHash hash) :
    hashes.mapM assertHash = .ok hashes := by
  induction hashes with
  | nil => rfl
  | cons hash hashes ih =>
    rw [List.mapM_cons, assertHash_of_isHash (h hash (List.mem_cons_self ..)),
      ih fun x hx => h x (List.mem_cons_of_mem _ hx)]
    rfl

/-- All that a writer takes for granted holds for what has been read: it writes what `write` writes. -/
theorem writeAsserting_withoutSignatures {raw : Bytes} {o : Object} (h : Object.read? raw = some o) :
    o.withoutSignatures.writeAsserting = .ok o.withoutSignatures.write := by
  have encoding := assertLine_of_read h
  obtain ⟨l, wellFormed, rfl, -⟩ := Object.read?_sound h
  obtain ⟨_, readAuthor⟩ := wellFormed.readAuthor
  obtain ⟨_, readCommitter⟩ := wellFormed.readCommitter
  simp only [Object.writeAsserting, Object.withoutSignatures, assertHash_of_isHash wellFormed.tree,
    mapM_assertHash wellFormed.parents, assertWords_of_read readAuthor,
    assertWords_of_read readCommitter, encoding]
  rfl

/-! ## Which commits are accepted -/

/-- Zone and moment have a timestamp: local time is less than a day away from UTC, and the second lies
between the first and the last one. -/
structure Identity.IsDated (i : Identity) : Prop where
  zone : -86400 < i.zone.offset ∧ i.zone.offset < 86400
  moment : Timestamp.firstSecond ≤ i.seconds ∧ i.seconds ≤ Timestamp.lastSecond

/-- The identity can be written and has a timestamp. -/
structure Identity.IsAcceptable (i : Identity) : Prop extends i.IsDated where
  name : isPlain i.name = true
  email : isPlain i.email = true

theorem Identity.IsDated.minutes_lt {i : Identity} (h : i.IsDated) : i.zone.minutes < 1440 := by
  have zone := h.zone
  simp only [Zone.offset] at zone
  split at zone <;> omega

/-- The person of an identity that is dated. -/
def Identity.person (i : Identity) : Person where
  name := Utf8.toStringLossy i.name
  email := Utf8.toStringLossy i.email
  timestamp := ⟨i.seconds, 0, i.zone.offset⟩

theorem personOf_eq_ok_iff {i : Identity} {p : Person} :
    personOf i = .ok p ↔ i.IsDated ∧ p = i.person := by
  unfold personOf
  split
  · rename_i h
    have undated : ¬i.IsDated := fun dated => by simp [Timestamp.isOffset_iff.2 dated.zone] at h
    exact ⟨fun hp => (nomatch hp), fun dated => absurd dated.1 undated⟩
  · rename_i zone
    split
    · rename_i h
      have undated : ¬i.IsDated := fun dated => by simp [Timestamp.inRange_iff.2 dated.moment] at h
      exact ⟨fun hp => (nomatch hp), fun dated => absurd dated.1 undated⟩
    · rename_i moment
      rw [Bool.not_eq_true', Bool.not_eq_false] at zone moment
      have dated : i.IsDated := ⟨Timestamp.isOffset_iff.1 zone, Timestamp.inRange_iff.1 moment⟩
      rw [Except.ok.injEq, eq_comm]
      exact ⟨fun hp => ⟨dated, hp⟩, fun hp => hp.2⟩

theorem exists_person_iff {i : Identity} : (∃ p, personOf i = .ok p) ↔ i.IsDated := by
  simp only [personOf_eq_ok_iff, exists_and_left, exists_eq, and_true]

theorem Identity.exists_write_iff {i : Identity} :
    (∃ text, i.write = .ok text) ↔
      isPlain i.name = true ∧ isPlain i.email = true ∧ i.zone.minutes < 6000 := by
  simp only [write_eq_ok_iff]
  constructor
  · rintro ⟨_, name, email, zone, -⟩
    exact ⟨name, email, zone⟩
  · rintro ⟨name, email, zone⟩
    exact ⟨_, name, email, zone, rfl⟩

/-- An identity is acceptable if it passes both tests. The writer's test of the zone is the weaker one. -/
theorem Identity.isAcceptable_iff {i : Identity} :
    i.IsAcceptable ↔ (∃ text, i.write = .ok text) ∧ ∃ p, personOf i = .ok p := by
  rw [exists_write_iff, exists_person_iff]
  constructor
  · rintro ⟨dated, name, email⟩
    have zone := dated.minutes_lt
    exact ⟨⟨name, email, by omega⟩, dated⟩
  · rintro ⟨⟨name, email, -⟩, dated⟩
    exact ⟨dated, name, email⟩

/-- A commit that has been read is written, and then its author and its committer are dated. -/
theorem ofRaw_of_read {hash : String} {raw : Bytes} {o : Object} (h : Object.read? raw = some o) :
    (∃ c, ofRaw hash raw = .ok c) ↔ o.author.IsAcceptable ∧ o.committer.IsAcceptable := by
  have written : (∃ payload, o.withoutSignatures.write = .ok payload) ↔
      (∃ text, o.author.write = .ok text) ∧ ∃ text, o.committer.write = .ok text := by
    simp only [write_eq, bind_eq_ok_iff]
    constructor
    · rintro ⟨_, author, ha, committer, hc, -⟩
      exact ⟨⟨author, ha⟩, committer, hc⟩
    · rintro ⟨⟨author, ha⟩, committer, hc⟩
      exact ⟨_, author, ha, committer, hc, rfl⟩
  have accepted : (∃ c, ofRaw hash raw = .ok c) ↔
      (∃ payload, o.withoutSignatures.write = .ok payload) ∧
        (∃ p, personOf o.author = .ok p) ∧ ∃ p, personOf o.committer = .ok p := by
    simp only [ofRaw_eq_ok_iff, h]
    constructor
    · rintro ⟨_, o', payload, author, committer, ho, hp, ha, hc, -⟩
      obtain rfl := Option.some.inj ho
      exact ⟨⟨payload, hp⟩, ⟨author, ha⟩, committer, hc⟩
    · rintro ⟨⟨payload, hp⟩, ⟨author, ha⟩, committer, hc⟩
      exact ⟨_, o, payload, author, committer, rfl, hp, ha, hc, rfl⟩
  rw [accepted, written, Identity.isAcceptable_iff, Identity.isAcceptable_iff]
  exact and_and_and_comm

/-- A commit is accepted exactly if it is read and both identities are acceptable. -/
theorem ofRaw_isOk_iff {hash : String} {raw : Bytes} :
    (∃ c, ofRaw hash raw = .ok c) ↔
      ∃ o, Object.read? raw = some o ∧ o.author.IsAcceptable ∧ o.committer.IsAcceptable := by
  cases h : Object.read? raw with
  | none =>
    constructor
    · rintro ⟨c, hc⟩
      rw [ofRaw, h] at hc
      cases hc
    · rintro ⟨o, ho, -⟩
      cases ho
  | some o => simp only [ofRaw_of_read h, Option.some.injEq, exists_eq_left']

/-! ## Refusals -/

theorem commitAccess_of_personOf {i : Identity} {fault : Fault} (h : personOf i = .error fault) :
    ∃ detail, fault = .commitAccess detail := by
  unfold personOf at h
  split at h
  · cases h
    exact ⟨_, rfl⟩
  · split at h
    · cases h
      exact ⟨_, rfl⟩
    · cases h

/-- Whatever stands in the way of a commit, the fault is of one kind. -/
theorem commitAccess_of_ofRaw {hash : String} {raw : Bytes} {fault : Fault}
    (h : ofRaw hash raw = .error fault) : ∃ detail, fault = .commitAccess detail := by
  rw [ofRaw] at h
  split at h
  · rw [pure_bind] at h
    dsimp only at h
    split at h
    · rw [pure_bind] at h
      rcases bind_eq_error_iff.1 h with h | ⟨author, -, h⟩
      · exact commitAccess_of_personOf h
      · rcases bind_eq_error_iff.1 h with h | ⟨committer, -, h⟩
        · exact commitAccess_of_personOf h
        · cases h
    · cases h
      exact ⟨_, rfl⟩
  · cases h
    exact ⟨_, rfl⟩

theorem exists_commitAccess_of_not_isOk {hash : String} {raw : Bytes}
    (h : ¬∃ c, ofRaw hash raw = .ok c) : ∃ detail, ofRaw hash raw = .error (.commitAccess detail) := by
  cases hr : ofRaw hash raw with
  | ok c => exact absurd ⟨c, hr⟩ h
  | error fault =>
    obtain ⟨detail, rfl⟩ := commitAccess_of_ofRaw hr
    exact ⟨detail, rfl⟩

/-- The identity that a header of an accepted commit spells is dated. -/
theorem isDated_of_spelling {hash : String} {raw : Bytes} {i : Identity} (regular : i.IsRegular)
    (spelled : headerText? "author" raw = some i.spelling ∨
      headerText? "committer" raw = some i.spelling)
    (accepted : ∃ c, ofRaw hash raw = .ok c) : i.IsDated := by
  obtain ⟨o, ho, author, committer⟩ := ofRaw_isOk_iff.1 accepted
  obtain ⟨l, wellFormed, rfl, rfl⟩ := Object.read?_sound ho
  -- what is read from a spelling is what it spells
  have same : ∀ {j rest}, Identity.read (i.spelling ++ 0x0A :: rest) = some (j, 0x0A :: rest) →
      j = i := by
    intro j rest h
    rw [Identity.read_spelling regular] at h
    split at h
    · cases h
      rfl
    · cases h
  rcases spelled with h | h
  · obtain ⟨_, read⟩ := wellFormed.readAuthor
    rw [Layout.headerText?_author wellFormed] at h
    rw [Option.some.inj h] at read
    exact same read ▸ author.toIsDated
  · obtain ⟨_, read⟩ := wellFormed.readCommitter
    rw [Layout.headerText?_committer wellFormed] at h
    rw [Option.some.inj h] at read
    exact same read ▸ committer.toIsDated

/-- Any text under any name ends in a commit or in one kind of fault, and on the way nothing that the
writer takes for granted is broken. The commits that are accepted are those that are read and whose
identities are acceptable. So a zone of a day or more and a moment without a timestamp are refused, both
where they are read and where they are spelled with more digits than are read. -/
theorem ofRaw_total (hash : String) (raw : Bytes) :
    (∀ o, Object.read? raw = some o →
      o.withoutSignatures.writeAsserting = .ok o.withoutSignatures.write) ∧
    ((∃ c, ofRaw hash raw = .ok c) ∨ ∃ detail, ofRaw hash raw = .error (.commitAccess detail)) ∧
    ((∃ c, ofRaw hash raw = .ok c) ↔
      ∃ o, Object.read? raw = some o ∧ o.author.IsAcceptable ∧ o.committer.IsAcceptable) ∧
    (∀ o, Object.read? raw = some o → ∀ i ∈ [o.author, o.committer],
      (i.zone.offset ≤ -86400 ∨ 86400 ≤ i.zone.offset ∨ i.seconds < Timestamp.firstSecond ∨
        Timestamp.lastSecond < i.seconds) →
      ∃ detail, ofRaw hash raw = .error (.commitAccess detail)) ∧
    ∀ i : Identity, i.IsRegular →
      (headerText? "author" raw = some i.spelling ∨ headerText? "committer" raw = some i.spelling) →
      (i.zone.offset ≤ -86400 ∨ 86400 ≤ i.zone.offset ∨ i.seconds < Timestamp.firstSecond ∨
        Timestamp.lastSecond < i.seconds) →
      ∃ detail, ofRaw hash raw = .error (.commitAccess detail) := by
  have undated : ∀ {i : Identity}, (i.zone.offset ≤ -86400 ∨ 86400 ≤ i.zone.offset ∨
      i.seconds < Timestamp.firstSecond ∨ Timestamp.lastSecond < i.seconds) → ¬i.IsDated := by
    rintro i h ⟨zone, moment⟩
    omega
  refine ⟨fun o => writeAsserting_withoutSignatures, ?_, ofRaw_isOk_iff, ?_, ?_⟩
  · by_cases h : ∃ c, ofRaw hash raw = .ok c
    · exact .inl h
    · exact .inr (exists_commitAccess_of_not_isOk h)
  · intro o ho i hi h
    refine exists_commitAccess_of_not_isOk fun accepted => undated h ?_
    obtain ⟨author, committer⟩ := (ofRaw_of_read ho).1 accepted
    simp only [List.mem_cons, List.not_mem_nil, or_false] at hi
    rcases hi with rfl | rfl
    · exact author.toIsDated
    · exact committer.toIsDated
  · intro i regular spelled h
    exact exists_commitAccess_of_not_isOk fun accepted =>
      undated h (isDated_of_spelling regular spelled accepted)

end CommitGate.Commit

import CommitGate.Commit.Identity
import CommitGate.Proofs.Except
import CommitGate.Proofs.Text.Decimal
import CommitGate.Proofs.Text.Lines
import CommitGate.Proofs.Text.Utf8

/-! # Author and committer lines, read and written

An identity is read from part of a line (`read_sound`), in many spellings; `Identity.write` knows one,
`Identity.spelling`. An identity is written as it was read exactly if it was read from a canonical
spelling (`write_of_read_iff`):

* `write_eq_ok_iff`: what is written is a spelling;
* `read_spelling`: a spelling is read as the identity that it spells.
-/

namespace CommitGate.Commit

/-! ## ASCII texts -/

/-- The bytes of an ASCII text are its characters. -/
theorem asciiChars_encode {s : List Char} (h : ∀ c ∈ s, c.toNat < 0x80) :
    asciiChars (Utf8.encode s) = s := by
  rw [Utf8.encode_of_ascii h, asciiChars, List.map_map]
  apply map_eq_self
  intro c hc
  have small : c.toNat % 2 ^ 8 = c.toNat := Nat.mod_eq_of_lt (Nat.lt_trans (h c hc) (by decide))
  show Char.ofNat (UInt8.ofNat c.toNat).toNat = c
  rw [UInt8.toNat_ofNat', small, Char.ofNat_toNat]

/-- ASCII bytes are read as one character each. -/
theorem decodeLossy_of_ascii {bs : Bytes} (h : ∀ b ∈ bs, b < 0x80) :
    Utf8.decodeLossy bs = asciiChars bs := by
  induction bs with
  | nil => rw [Utf8.decodeLossy, asciiChars, List.map_nil]
  | cons b rest ih =>
    have step : Utf8.step b rest = .char (Char.ofNat b.toNat) rest :=
      if_pos (h b (List.mem_cons_self ..))
    have hr := ih fun b' hb => h b' (List.mem_cons_of_mem _ hb)
    rw [Utf8.decodeLossy]
    split <;> rename_i heq <;> rw [step] at heq <;> cases heq
    rw [hr]
    rfl

theorem toNat_lt_of_isDigit {c : Char} (h : Decimal.isDigit c = true) : c.toNat < 0x80 := by
  have := Decimal.isDigit_iff.1 h
  omega

/-- The bytes of digits are digits. -/
theorem isDigit_of_mem_encode {s : List Char} (h : ∀ c ∈ s, Decimal.isDigit c = true) :
    ∀ b ∈ Utf8.encode s, Bytes.isDigit b = true := by
  rw [Utf8.encode_of_ascii fun c hc => toNat_lt_of_isDigit (h c hc)]
  intro b hb
  obtain ⟨c, hc, rfl⟩ := List.mem_map.1 hb
  have bounds := Decimal.isDigit_iff.1 (h c hc)
  have small : c.toNat % 2 ^ 8 = c.toNat := Nat.mod_eq_of_lt (by omega)
  simp only [Bytes.isDigit, Bool.and_eq_true, decide_eq_true_eq, UInt8.le_iff_toNat_le,
    UInt8.toNat_ofNat', small]
  exact bounds

/-- The bytes of an integer's text are digits and a minus sign. -/
theorem mem_encode_ofInt {i : Int} {b : UInt8} (h : b ∈ Utf8.encode (Decimal.ofInt i)) :
    b = 0x2D ∨ Bytes.isDigit b = true := by
  unfold Decimal.ofInt at h
  split at h
  · rw [Utf8.encode, List.flatMap_cons] at h
    rcases List.mem_append.1 h with h | h
    · exact .inl (List.mem_singleton.1 h)
    · exact .inr (isDigit_of_mem_encode (fun c => Decimal.isDigit_of_mem_digits) b h)
  · exact .inr (isDigit_of_mem_encode (fun c => Decimal.isDigit_of_mem_digits) b h)

theorem asciiChars_encode_ofInt (i : Int) :
    asciiChars (Utf8.encode (Decimal.ofInt i)) = Decimal.ofInt i := by
  apply asciiChars_encode
  intro c hc
  rcases Decimal.mem_ofInt hc with rfl | hc
  · decide
  · exact toNat_lt_of_isDigit hc

/-! ## Numbers of two digits -/

/-- The two digits of a number below 100. -/
def twoDigits (n : Nat) : Bytes := Utf8.encode (Decimal.padded 2 n)

theorem isDigit_of_mem_twoDigits {n : Nat} : ∀ b ∈ twoDigits n, Bytes.isDigit b = true :=
  isDigit_of_mem_encode fun _ => Decimal.isDigit_of_mem_padded

theorem length_twoDigits {n : Nat} (h : n < 100) : (twoDigits n).length = 2 := by
  rw [twoDigits, Utf8.encode_of_ascii fun c hc => toNat_lt_of_isDigit (Decimal.isDigit_of_mem_padded hc),
    List.length_map, Decimal.length_padded_two h]

/-- The digits denote the number. -/
theorem ofDigits_twoDigits (n : Nat) : Decimal.ofDigits (asciiChars (twoDigits n)) = n := by
  rw [twoDigits, asciiChars_encode fun c hc => toNat_lt_of_isDigit (Decimal.isDigit_of_mem_padded hc),
    Decimal.ofDigits_padded]

/-- A literal is taken exactly if it stands in front. -/
theorem literal_eq_some_iff {expected bs rest : Bytes} :
    literal expected bs = some rest ↔ bs = expected ++ rest := by
  unfold literal
  constructor
  · intro h
    split at h
    · rename_i hp
      obtain ⟨t, rfl⟩ := List.isPrefixOf_iff_prefix.1 hp
      rw [List.drop_left, Option.some.injEq] at h
      rw [h]
    · cases h
  · rintro rfl
    rw [if_pos (List.isPrefixOf_iff_prefix.2 ⟨rest, rfl⟩), List.drop_left]

/-! ## Zones -/

namespace Zone

/-- The byte of a zone's sign. -/
def sign (z : Zone) : UInt8 := if z.negative then 0x2D else 0x2B

/-- The digits of a zone's hours and minutes. -/
def digits (z : Zone) : Bytes := twoDigits (z.minutes / 60) ++ twoDigits (z.minutes % 60)

theorem sign_eq_plus_or_minus (z : Zone) : z.sign = 0x2B ∨ z.sign = 0x2D := by
  unfold sign
  cases z.negative with
  | false => exact .inl rfl
  | true => exact .inr rfl

theorem sign_beq_minus (z : Zone) : (z.sign == 0x2D) = z.negative := by
  unfold sign
  cases z.negative <;> rfl

theorem isDigit_of_mem_digits {z : Zone} : ∀ b ∈ z.digits, Bytes.isDigit b = true := by
  intro b hb
  rcases List.mem_append.1 hb with hb | hb
  · exact isDigit_of_mem_twoDigits b hb
  · exact isDigit_of_mem_twoDigits b hb

theorem length_digits {z : Zone} (h : z.minutes < 6000) : z.digits.length = 4 := by
  rw [digits, List.length_append, length_twoDigits (by omega), length_twoDigits (by omega)]

/-- The digits denote the zone's distance from UTC. -/
theorem value_digits {z : Zone} (h : z.minutes < 6000) :
    Decimal.ofDigits (asciiChars (z.digits.take 2)) * 60 +
      Decimal.ofDigits (asciiChars (z.digits.drop 2)) = z.minutes := by
  have hours : (twoDigits (z.minutes / 60)).length = 2 := length_twoDigits (by omega)
  rw [digits, List.take_left' hours, List.drop_left' hours, ofDigits_twoDigits, ofDigits_twoDigits,
    Nat.div_add_mod']

/-- A sign is no digit, so a reader of signs stops at the first digit. -/
theorem dropWhile_sign {z : Zone} (h : z.minutes < 6000) (rest : Bytes) :
    (z.sign :: (z.digits ++ rest)).dropWhile (· == z.sign) = z.digits ++ rest := by
  rw [List.dropWhile_cons_of_pos (by simp)]
  cases hd : z.digits with
  | nil =>
    have length := length_digits h
    rw [hd] at length
    cases length
  | cons b more =>
    have inside : b ∈ z.digits := hd ▸ List.mem_cons_self ..
    have digit := isDigit_of_mem_digits b inside
    refine List.dropWhile_cons_of_neg fun heq => ?_
    rw [beq_iff_eq.1 heq] at digit
    rcases z.sign_eq_plus_or_minus with hs | hs <;> rw [hs] at digit <;> cases digit

end Zone

namespace Identity

/-! ## Spellings -/

/-- No blank stands at either end. -/
structure IsTrimmed (bs : Bytes) : Prop where
  head : ∀ b ∈ bs.head?, Bytes.isAsciiBlank b = false
  last : ∀ b ∈ bs.getLast?, Bytes.isAsciiBlank b = false

/-- The moment and the time zone as they are spelled, each after a space: ` seconds ±HHMM`. -/
def stamp (i : Identity) : Bytes :=
  0x20 :: (Utf8.encode (Decimal.ofInt i.seconds) ++ 0x20 :: i.zone.sign :: i.zone.digits)

/-- The spelling `name <email> seconds ±HHMM`: one space between the parts, no needless zero or sign in
the seconds, and two digits each for the hours and minutes of the zone. -/
def spelling (i : Identity) : Bytes := i.name ++ 0x20 :: 0x3C :: (i.email ++ 0x3E :: i.stamp)

/-- The identity has a spelling: name and email address have no angle bracket and no line feed, the
email address has no blank at its ends, and the zone is less than 100 hours away from UTC. -/
structure IsRegular (i : Identity) : Prop where
  name : isPlain i.name = true
  email : isPlain i.email = true
  trimmed : IsTrimmed i.email
  zone : i.zone.minutes < 6000

/-- The text is the canonical spelling of an identity. -/
def IsCanonical (text : Bytes) : Prop := ∃ i : Identity, i.IsRegular ∧ text = i.spelling

/-! ## Reading a spelling -/

theorem isPlain_iff {bs : Bytes} : isPlain bs = true ↔ 0x3C ∉ bs ∧ 0x3E ∉ bs ∧ 0x0A ∉ bs := by
  simp only [isPlain, List.all_eq_true, Bool.and_eq_true, bne_iff_ne, ne_eq]
  constructor
  · intro h
    exact ⟨fun hm => (h _ hm).1.1 rfl, fun hm => (h _ hm).1.2 rfl, fun hm => (h _ hm).2 rfl⟩
  · rintro ⟨h1, h2, h3⟩ b hb
    exact ⟨⟨fun he => h1 (he ▸ hb), fun he => h2 (he ▸ hb)⟩, fun he => h3 (he ▸ hb)⟩

/-- Behind the last bracket stands what has none. -/
theorem takeWhile_reverse_bracket {body t : Bytes} (h : 0x3E ∉ t) :
    ((body ++ 0x3E :: t).reverse.takeWhile (· != 0x3E)).length = t.length := by
  have free : 0x3E ∉ t.reverse := by
    rwa [List.mem_reverse]
  rw [List.reverse_append, List.reverse_cons, List.append_assoc, List.singleton_append,
    takeWhile_ne free, List.length_reverse]

/-- An email address between brackets is found without what may stand around it. -/
theorem dropWhile_bracket {email : Bytes} (he : 0x3C ∉ email) (ht : IsTrimmed email) :
    ((0x3C : UInt8) :: email).dropWhile (fun b => Bytes.isAsciiBlank b || b == 0x3C) = email := by
  rw [List.dropWhile_cons_of_pos (by decide)]
  cases email with
  | nil => rfl
  | cons b rest =>
    have first : b ≠ 0x3C := fun h => he (h ▸ List.mem_cons_self ..)
    exact List.dropWhile_cons_of_neg (by simp [ht.head b rfl, first])

/-- Nothing is cut off behind such an address. -/
theorem takeWhile_reverse_email {pre email : Bytes} (he : 0x3E ∉ email) (ht : IsTrimmed email) :
    (pre ++ 0x3C :: email).reverse.takeWhile (fun b => Bytes.isAsciiBlank b || b == 0x3E) = [] := by
  rcases List.eq_nil_or_concat email with rfl | ⟨front, b, rfl⟩
  · simp [Bytes.isAsciiBlank]
  · have last : b ≠ 0x3E := fun h => he (by simp [h])
    have blank := ht.last b (by simp)
    simp [blank, last]

/-- A line with a bracket in it, cut at the last one. -/
theorem take_before_bracket (body t : Bytes) :
    (body ++ 0x3E :: t).take ((body ++ 0x3E :: t).length - t.length - 1) = body := by
  rw [List.length_append, List.length_cons]
  exact List.take_left' (by omega)

/-- The line goes on behind a text that has no line feed. -/
theorem takeWhile_line {body tail : Bytes} (h : 0x0A ∉ body) :
    (body ++ 0x3E :: tail).takeWhile (· != 0x0A) = body ++ 0x3E :: tail.takeWhile (· != 0x0A) := by
  have all : ∀ b ∈ body ++ [0x3E], (b != 0x0A) = true := by
    intro b hb
    refine bne_iff_ne.2 ?_
    rintro rfl
    simp [h] at hb
  rw [← List.singleton_append, ← List.append_assoc, List.takeWhile_append_of_pos all,
    List.append_assoc, List.singleton_append]

/-- Name and email address are read up to the last bracket of the line. -/
theorem readPerson_spelling {name email tail : Bytes} (hn : isPlain name = true)
    (he : isPlain email = true) (ht : IsTrimmed email)
    (hg : 0x3E ∉ tail.takeWhile (· != 0x0A)) :
    readPerson (name ++ 0x20 :: 0x3C :: (email ++ 0x3E :: tail)) = some ((name, email), tail) := by
  obtain ⟨hn1, hn2, hn3⟩ := isPlain_iff.1 hn
  obtain ⟨he1, he2, he3⟩ := isPlain_iff.1 he
  -- the name is found with the space behind it, which is then taken off
  let body : Bytes := name ++ [0x20] ++ 0x3C :: email
  have text : name ++ 0x20 :: 0x3C :: (email ++ 0x3E :: tail) = body ++ 0x3E :: tail := by
    simp [body]
  have free : 0x0A ∉ body := by
    simp [body, hn3, he3]
  have nameOf : body.takeWhile (· != 0x3C) = name ++ [0x20] := by
    have free : 0x3C ∉ name ++ [0x20] := by
      simp [hn1]
    exact takeWhile_ne free
  have bracketed : body.drop (name ++ [0x20]).length = 0x3C :: email := List.drop_left
  have untrimmed : body.reverse.takeWhile (fun b => Bytes.isAsciiBlank b || b == 0x3E) = [] :=
    takeWhile_reverse_email he2 ht
  have shorter : (tail.takeWhile (· != 0x0A)).length <
      (body ++ 0x3E :: tail.takeWhile (· != 0x0A)).length := by
    rw [List.length_append, List.length_cons]
    omega
  rw [text]
  simp only [readPerson, takeWhile_line free, takeWhile_reverse_bracket hg, take_before_bracket, nameOf,
    bracketed, dropWhile_bracket he1 ht, untrimmed, drop_cons]
  rw [guard_eq_some_iff (u := ()) |>.2 shorter]
  simp [guard]

/-- Seconds within 64 bits are read as they are spelled, and others not at all. -/
theorem readSeconds_spelling (n : Int) (rest : Bytes) :
    readSeconds (Utf8.encode (Decimal.ofInt n) ++ 0x20 :: rest) =
      if -(Nat.pow 2 63 : Int) ≤ n ∧ n < Nat.pow 2 63 then some (n, rest) else none := by
  have digits : (Utf8.encode (Decimal.ofInt n) ++ 0x20 :: rest).takeWhile (· != 0x20) =
      Utf8.encode (Decimal.ofInt n) := by
    have free : 0x20 ∉ Utf8.encode (Decimal.ofInt n) := by
      intro hm
      rcases mem_encode_ofInt hm with h | h <;> cases h
    exact takeWhile_ne free
  have shorter : (Utf8.encode (Decimal.ofInt n)).length <
      (Utf8.encode (Decimal.ofInt n) ++ 0x20 :: rest).length := by
    rw [List.length_append, List.length_cons]
    omega
  simp only [readSeconds, digits, asciiChars_encode_ofInt, Decimal.int?_ofInt, drop_cons]
  rw [guard_eq_some_iff (u := ()) |>.2 shorter]
  simp only [guard, Bool.and_eq_true, decide_eq_true_eq, Option.bind_eq_bind, Option.bind_some]
  by_cases h : -(Nat.pow 2 63 : Int) ≤ n ∧ n < Nat.pow 2 63
  · simp only [if_pos h]
    rfl
  · simp only [if_neg h]
    rfl

/-- A zone is read as it is spelled. -/
theorem readZone_spelling {z : Zone} (h : z.minutes < 6000) (rest : Bytes) :
    readZone (z.sign :: (z.digits ++ 0x0A :: rest)) = some (z, 0x0A :: rest) := by
  have isSign : (z.sign == 0x2B || z.negative) = true := by
    rw [← z.sign_beq_minus]
    rcases z.sign_eq_plus_or_minus with hs | hs <;> rw [hs] <;> rfl
  have digits : (z.digits ++ 0x0A :: rest).takeWhile Bytes.isDigit = z.digits :=
    takeWhile_stop Zone.isDigit_of_mem_digits (by decide)
  have behind : (z.digits ++ 0x0A :: rest).drop 4 = 0x0A :: rest :=
    List.drop_left' (Zone.length_digits h)
  simp only [readZone, List.head?_cons, Option.bind_eq_bind, Option.bind_some, Zone.dropWhile_sign h,
    digits, Zone.length_digits h, Zone.value_digits h, behind, z.sign_beq_minus, isSign]
  rfl

/-- The part of a spelling behind the brackets has no line feed and no further bracket. -/
theorem stamp_plain (i : Identity) : ∀ b ∈ i.stamp, b ≠ 0x0A ∧ b ≠ 0x3E := by
  have digit : ∀ b, Bytes.isDigit b = true → b ≠ 0x0A ∧ b ≠ 0x3E := by
    intro b hb
    constructor
    · rintro rfl
      cases hb
    · rintro rfl
      cases hb
  intro b hb
  simp only [stamp, List.mem_cons, List.mem_append] at hb
  rcases hb with rfl | hb | rfl | rfl | hb
  · decide
  · rcases mem_encode_ofInt hb with rfl | hb
    · decide
    · exact digit b hb
  · decide
  · rcases i.zone.sign_eq_plus_or_minus with hs | hs <;> rw [hs] <;> decide
  · exact digit b (Zone.isDigit_of_mem_digits b hb)

/-- A spelling is read as the identity that it spells, if its seconds are within 64 bits. -/
theorem read_spelling {i : Identity} (h : i.IsRegular) (rest : Bytes) :
    Identity.read (i.spelling ++ 0x0A :: rest) =
      if -(Nat.pow 2 63 : Int) ≤ i.seconds ∧ i.seconds < Nat.pow 2 63 then some (i, 0x0A :: rest)
      else none := by
  have text : i.spelling ++ 0x0A :: rest =
      i.name ++ 0x20 :: 0x3C :: (i.email ++ 0x3E :: (i.stamp ++ 0x0A :: rest)) := by
    simp [spelling]
  have line : (i.stamp ++ 0x0A :: rest).takeWhile (· != 0x0A) = i.stamp :=
    takeWhile_ne fun hm => (stamp_plain i _ hm).1 rfl
  have person : readPerson (i.name ++ 0x20 :: 0x3C :: (i.email ++ 0x3E :: (i.stamp ++ 0x0A :: rest))) =
      some ((i.name, i.email), i.stamp ++ 0x0A :: rest) := by
    refine readPerson_spelling h.name h.email h.trimmed ?_
    rw [line]
    exact fun hm => (stamp_plain i _ hm).2 rfl
  have space : literal [0x20] (i.stamp ++ 0x0A :: rest) =
      some (Utf8.encode (Decimal.ofInt i.seconds) ++
        0x20 :: i.zone.sign :: (i.zone.digits ++ 0x0A :: rest)) :=
    literal_eq_some_iff.2 (by simp [stamp])
  rw [text]
  simp only [Identity.read, Option.bind_eq_bind, person, space, Option.bind_some,
    readSeconds_spelling]
  split
  · simp only [Option.bind_some, readZone_spelling h.zone]
  · rfl

/-! ## What any reading keeps -/

/-- What is left of a text between brackets has no blank at its ends. -/
theorem isTrimmed_cut (front : Bytes) {bracketed inner : Bytes}
    (hi : bracketed.dropWhile (fun b => Bytes.isAsciiBlank b || b == 0x3C) = inner) {k : Nat}
    (hk : ((front ++ bracketed).reverse.takeWhile fun b => Bytes.isAsciiBlank b || b == 0x3E).length =
      k) (hle : k ≤ inner.length) : IsTrimmed (inner.take (inner.length - k)) := by
  constructor
  · intro b hb
    have first := List.head?_dropWhile_not (fun b => Bytes.isAsciiBlank b || b == 0x3C) bracketed
    rw [hi] at first
    rw [List.head?_take] at hb
    split at hb
    · cases hb
    · rw [hb] at first
      exact (Bool.or_eq_false_iff.1 first).1
  · intro b hb
    -- from behind, the rest of `front ++ bracketed` begins with what is left of `inner`
    obtain ⟨opening, ho⟩ : inner <:+ bracketed := hi ▸ List.dropWhile_suffix _
    have rest : (front ++ bracketed).reverse.dropWhile
        (fun b => Bytes.isAsciiBlank b || b == 0x3E) =
        (inner.take (inner.length - k)).reverse ++ (front ++ opening).reverse := by
      have split := List.takeWhile_append_dropWhile
        (p := fun b => Bytes.isAsciiBlank b || b == 0x3E) (l := (front ++ bracketed).reverse)
      have dropped := congrArg (List.drop k) split
      rw [List.drop_left' hk] at dropped
      rw [dropped, ← ho, ← List.append_assoc, List.reverse_append,
        List.drop_append_of_le_length (by rw [List.length_reverse]; exact hle), List.reverse_take]
      congr 2
      omega
    have last := List.head?_dropWhile_not (fun b => Bytes.isAsciiBlank b || b == 0x3E)
      (front ++ bracketed).reverse
    rw [rest, List.head?_append, ← List.getLast?_eq_head?_reverse, hb] at last
    exact (Bool.or_eq_false_iff.1 last).1

theorem readPerson_sound {bs rest name email : Bytes}
    (h : readPerson bs = some ((name, email), rest)) :
    ∃ text, bs = text ++ rest ∧ 0x0A ∉ text ∧ IsTrimmed email := by
  simp only [readPerson, Option.bind_eq_bind, Option.bind_eq_some_iff, guard_eq_some_iff,
    Option.some.injEq, Prod.mk.injEq] at h
  generalize hline : bs.takeWhile (· != 0x0A) = line at h
  generalize (line.reverse.takeWhile (· != 0x3E)).length = afterLast at h
  generalize hbody : line.take (line.length - afterLast - 1) = body at h
  generalize (body.takeWhile (· != 0x3C)).length = n at h
  obtain ⟨-, inside, -, -, -, cut, ⟨-, rfl⟩, rfl⟩ := h
  have length : body.length + 1 ≤ line.length := by
    rw [← hbody, List.length_take]
    omega
  refine ⟨bs.take (body.length + 1), (List.take_append_drop _ _).symm, ?_, ?_⟩
  · -- the text is part of the line
    intro hm
    have split := List.takeWhile_append_dropWhile (p := (· != 0x0A)) (l := bs)
    rw [hline] at split
    rw [← split, List.take_append_of_le_length length, ← hline] at hm
    cases of_mem_takeWhile (List.mem_of_mem_take hm)
  · exact isTrimmed_cut (body.take n) rfl (by rw [List.take_append_drop]) cut

theorem readSeconds_sound {bs rest : Bytes} {n : Int} (h : readSeconds bs = some (n, rest)) :
    ∃ text, bs = text ++ rest ∧ 0x0A ∉ text := by
  simp only [readSeconds, Option.bind_eq_bind, Option.bind_eq_some_iff, guard_eq_some_iff,
    Option.some.injEq, Prod.mk.injEq] at h
  obtain ⟨-, shorter, m, hm, -, -, -, rfl⟩ := h
  obtain ⟨stop, ys, hbs, hstop⟩ := exists_stop shorter
  generalize bs.takeWhile (· != 0x20) = digits at *
  obtain rfl : stop = 0x20 := by simpa using hstop
  refine ⟨digits ++ [0x20], by rw [hbs, drop_cons]; simp, ?_⟩
  intro hlf
  rcases List.mem_append.1 hlf with hlf | hlf
  · -- a number has no line feed
    have number := Decimal.mem_of_int? hm '\n' (List.mem_map.2 ⟨0x0A, hlf, rfl⟩)
    revert number
    decide
  · revert hlf
    decide

theorem readZone_sound {bs rest : Bytes} {z : Zone} (h : readZone bs = some (z, rest)) :
    ∃ text, bs = text ++ rest ∧ 0x0A ∉ text := by
  simp only [readZone, Option.bind_eq_bind, Option.bind_eq_some_iff, guard_eq_some_iff,
    Option.some.injEq, Prod.mk.injEq] at h
  obtain ⟨sign, -, -, hs, -, -, -, rfl⟩ := h
  generalize hr : bs.dropWhile (· == sign) = digits
  refine ⟨bs.takeWhile (· == sign) ++ digits.takeWhile Bytes.isDigit, ?_, ?_⟩
  · rw [drop_length_takeWhile, List.append_assoc, List.takeWhile_append_dropWhile, ← hr,
      List.takeWhile_append_dropWhile]
  · intro hlf
    rcases List.mem_append.1 hlf with hlf | hlf
    · obtain rfl : (0x0A : UInt8) = sign := by simpa using of_mem_takeWhile hlf
      cases hs
    · cases of_mem_takeWhile hlf

/-- What is read as an identity is part of a line, and the email address has no blanks around it. -/
theorem read_sound {bs rest : Bytes} {i : Identity} (h : Identity.read bs = some (i, rest)) :
    ∃ text, bs = text ++ rest ∧ 0x0A ∉ text ∧ IsTrimmed i.email := by
  -- the texts that the three readers take, with the space after the first one
  simp only [Identity.read, Option.bind_eq_bind, Option.bind_eq_some_iff] at h
  obtain ⟨⟨⟨name, email⟩, bs1⟩, hp, bs2, hl, ⟨seconds, bs3⟩, hn, ⟨zone, bs4⟩, hz, h⟩ := h
  cases h
  obtain ⟨t1, rfl, f1, ht⟩ := readPerson_sound hp
  obtain rfl := literal_eq_some_iff.1 hl
  obtain ⟨t2, rfl, f2⟩ := readSeconds_sound hn
  obtain ⟨t3, rfl, f3⟩ := readZone_sound hz
  exact ⟨t1 ++ 0x20 :: (t2 ++ t3), by simp, by simp [f1, f2, f3], ht⟩

/-! ## Writing -/

theorem writeZone_eq_ok_iff {z : Zone} {text : Bytes} :
    writeZone z = .ok text ↔ z.minutes < 6000 ∧ text = z.sign :: z.digits := by
  have encoded : Utf8.encode ((if z.negative then '-' else '+') ::
        (Decimal.padded 2 (z.minutes / 60) ++ Decimal.padded 2 (z.minutes % 60))) =
      z.sign :: z.digits := by
    rw [Utf8.encode, List.flatMap_cons, List.flatMap_append, Zone.sign]
    cases z.negative <;> rfl
  unfold writeZone
  rw [encoded]
  split
  · constructor
    · intro h
      cases h
    · rintro ⟨h, -⟩
      omega
  · rw [Except.ok.injEq, eq_comm]
    constructor
    · intro h
      exact ⟨by omega, h⟩
    · rintro ⟨-, h⟩
      exact h

/-- What is written is the spelling. -/
theorem write_eq_ok_iff {i : Identity} {text : Bytes} :
    i.write = .ok text ↔ isPlain i.name = true ∧ isPlain i.email = true ∧ i.zone.minutes < 6000 ∧
      text = i.spelling := by
  simp only [write]
  split
  · rename_i reserved
    constructor
    · intro h
      cases h
    · rintro ⟨hn, he, -⟩
      simp [hn, he] at reserved
  · rename_i plain
    obtain ⟨hn, he⟩ : isPlain i.name = true ∧ isPlain i.email = true := by simpa using plain
    simp only [bind_eq_ok_iff, writeZone_eq_ok_iff]
    constructor
    · rintro ⟨zone, ⟨hz, rfl⟩, h⟩
      cases h
      exact ⟨hn, he, hz, by simp [spelling, stamp]⟩
    · rintro ⟨-, -, hz, rfl⟩
      exact ⟨_, ⟨hz, rfl⟩, by simp [spelling, stamp, pure, Except.pure]⟩

/-- What is written is part of a line. -/
theorem not_mem_of_write {i : Identity} {text : Bytes} (h : i.write = .ok text) : 0x0A ∉ text := by
  obtain ⟨hn, he, -, rfl⟩ := write_eq_ok_iff.1 h
  have stamp : 0x0A ∉ i.stamp := fun hm => (stamp_plain i _ hm).1 rfl
  simp [spelling, (isPlain_iff.1 hn).2.2, (isPlain_iff.1 he).2.2, stamp]

/-- An identity is written as it was read exactly if it was read from a canonical spelling. -/
theorem write_of_read_iff {text rest written : Bytes} {i : Identity}
    (h : Identity.read (text ++ 0x0A :: rest) = some (i, 0x0A :: rest))
    (hw : i.write = .ok written) : written = text ↔ IsCanonical text := by
  obtain ⟨hn, he, hz, rfl⟩ := write_eq_ok_iff.1 hw
  constructor
  · rintro rfl
    obtain ⟨_, -, -, ht⟩ := read_sound h
    exact ⟨i, ⟨hn, he, ht, hz⟩, rfl⟩
  · rintro ⟨j, regular, rfl⟩
    -- the identity that is spelled is the one that was read
    rw [read_spelling regular] at h
    split at h
    · cases h
      rfl
    · cases h

end Identity

end CommitGate.Commit

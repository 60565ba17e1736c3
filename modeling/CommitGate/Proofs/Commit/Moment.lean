import CommitGate.Proofs.Outcome.Written

/-! # The moments of a published commit

The text of a timestamp is read here as anyone with a calendar would: digits for date, time of day and offset, and
the days counted from date to date.

* `Timestamp.told?` takes such a text apart, `Timestamp.Tells` says which second and offset it tells;
* `Timestamp.tells_zuluText`: the text of a moment tells the moment, in any year, and `Tells.unique`: no other one;
* `Commit.published_tells`: so do the texts that are published of author and committer, which is all of them but
  those whose local date has no known year; and who has no timestamp is refused.
* `Commit.published_tells_undated`: a commit is accepted with a local date that cannot be published.
-/

namespace CommitGate

namespace Timestamp

open Decimal (padded ofDigits isDigit)

/-! ## Taking a text apart -/

/-- A date, a time of day and an offset, as they stand in a text. -/
structure Told where
  date : Date
  hour : Nat
  minute : Nat
  second : Nat
  offset : Int
deriving DecidableEq, Repr

/-- Two digits after a sign. -/
def pair? (sign : Char) : List Char → Option (Nat × List Char)
  | c :: a :: b :: rest =>
    if c = sign && isDigit a && isDigit b then some (ofDigits [a, b], rest) else none
  | _ => none

/-- The number of four digits or more. -/
def longNumber? (s : List Char) : Option (Nat × List Char) :=
  let ds := s.takeWhile isDigit
  if 4 ≤ ds.length then some (ofDigits ds, s.drop ds.length) else none

/-- A year of four digits without a sign, or of four or more with one. -/
def toldYear? : List Char → Option (Int × List Char)
  | [] => none
  | c :: s =>
    if c = '-' then (longNumber? s).map (Prod.map (fun (n : Nat) => -(n : Int)) id)
    else if c = '+' then (longNumber? s).map (Prod.map (fun (n : Nat) => (n : Int)) id)
    else if ((c :: s).takeWhile isDigit).length = 4 then
      (longNumber? (c :: s)).map (Prod.map (fun (n : Nat) => (n : Int)) id)
    else none

/-- An offset at the end of a text: a letter for UTC, or a sign with hours and minutes. -/
def toldOffset? : List Char → Option Int
  | [] => none
  | sign :: s => do
    if sign = 'Z' then return ← if s.isEmpty then some 0 else none
    let (hours, rest) ← pair? sign (sign :: s)
    let (minutes, rest) ← pair? ':' rest
    let seconds : Int := (hours * 3600 + minutes * 60 : Nat)
    if !rest.isEmpty then none
    else if sign = '+' then some seconds
    else if sign = '-' then some (-seconds)
    else none

/-- What stands in the text of a moment. -/
def told? (s : List Char) : Option Told := do
  let (year, s) ← toldYear? s
  let (month, s) ← pair? '-' s
  let (day, s) ← pair? '-' s
  let (hour, s) ← pair? 'T' s
  let (minute, s) ← pair? ':' s
  let (second, s) ← pair? ':' s
  let offset ← toldOffset? s
  some ⟨⟨year, month, day⟩, hour, minute, second, offset⟩

/-- The calendar has the date, the day has the time, and the offset is less than a day. -/
structure Told.IsReal (t : Told) : Prop where
  date : t.date.IsReal
  hour : t.hour < 24
  minute : t.minute < 60
  second : t.second < 60
  offset : -86400 < t.offset ∧ t.offset < 86400

/-- A text tells a second since 1970 and an offset. -/
def Tells (text : String) (seconds offset : Int) : Prop :=
  ∃ t days, told? text.toList = some t ∧ t.IsReal ∧ t.date.FallsOn days ∧
    seconds = days * 86400 + (t.hour * 3600 + t.minute * 60 + t.second : Nat) - t.offset ∧ offset = t.offset

/-- A text tells one moment. -/
theorem Tells.unique {text : String} {seconds seconds' offset offset' : Int}
    (h : Tells text seconds offset) (h' : Tells text seconds' offset') :
    seconds = seconds' ∧ offset = offset' := by
  obtain ⟨t, days, read, -, falls, rfl, rfl⟩ := h
  obtain ⟨t', days', read', -, falls', rfl, rfl⟩ := h'
  obtain rfl : t = t' := Option.some.inj (read.symm.trans read')
  obtain rfl : days = days' := falls.toDays_eq.symm.trans falls'.toDays_eq
  exact ⟨rfl, rfl⟩

/-! ## The text of a moment -/

theorem pair?_padded {n : Nat} (sign : Char) (rest : List Char) (h : n < 100) :
    pair? sign (sign :: (padded 2 n ++ rest)) = some (n, rest) := by
  have value := Decimal.ofDigits_padded 2 n
  obtain ⟨a, b, written, ha, hb, -⟩ := padded_two h
  rw [written] at value ⊢
  simp [pair?, ha, hb, value]

theorem takeWhile_padded {width n : Nat} {rest : List Char} (stop : ∀ c ∈ rest.head?, isDigit c = false) :
    (padded width n ++ rest).takeWhile isDigit = padded width n := by
  have all : ((padded width n ++ rest).take (padded width n ++ rest).length).takeWhile isDigit = padded width n :=
    takeWhile_take_digits (fun c => Decimal.isDigit_of_mem_padded) (.inr ⟨by rw [List.length_append]; omega, stop⟩)
  rwa [List.take_length] at all

theorem longNumber?_padded (n : Nat) {rest : List Char} (stop : ∀ c ∈ rest.head?, isDigit c = false) :
    longNumber? (padded 4 n ++ rest) = some (n, rest) := by
  have four : 4 ≤ (padded 4 n).length := by
    rw [padded, List.length_append, List.length_replicate]
    omega
  simp only [longNumber?, takeWhile_padded stop, if_pos four, Decimal.ofDigits_padded, List.drop_left]

theorem toldYear?_yearText (y : Int) {rest : List Char} (stop : ∀ c ∈ rest.head?, isDigit c = false) :
    toldYear? (yearText y ++ rest) = some (y, rest) := by
  unfold yearText
  split
  · rename_i short
    rw [Bool.and_eq_true, decide_eq_true_eq, decide_eq_true_eq] at short
    have four : (padded 4 y.toNat).length = 4 := Decimal.length_padded_four (by omega)
    have taken : (padded 4 y.toNat ++ rest).takeWhile isDigit = padded 4 y.toNat := takeWhile_padded stop
    have read := longNumber?_padded y.toNat stop
    cases text : padded 4 y.toNat with
    | nil => exact absurd text (padded_ne_nil 4 _)
    | cons c s =>
      have digit : isDigit c = true := Decimal.isDigit_of_mem_padded (text ▸ List.mem_cons_self ..)
      -- a digit is no sign, so the year is read as one without
      have minus : c ≠ '-' := by
        rintro rfl
        cases digit
      have plus : c ≠ '+' := by
        rintro rfl
        cases digit
      rw [text, List.cons_append] at taken read
      rw [text] at four
      rw [List.cons_append, toldYear?, if_neg minus, if_neg plus, taken, if_pos four, read]
      simp [Int.toNat_of_nonneg short.1]
  · split
    · rename_i negative
      have same : -(y.natAbs : Int) = y := by omega
      rw [List.cons_append, toldYear?, if_pos rfl, longNumber?_padded _ stop]
      change some (-(y.natAbs : Int), rest) = some (y, rest)
      rw [same]
    · rename_i positive
      have same : (y.natAbs : Int) = y := by omega
      rw [List.cons_append, toldYear?, if_neg (by decide), if_pos rfl, longNumber?_padded _ stop]
      change some ((y.natAbs : Int), rest) = some (y, rest)
      rw [same]

theorem toldOffset?_zoneText {t : Timestamp} (h : -86400 < t.offset ∧ t.offset < 86400)
    (minutes : t.offset % 60 = 0) : toldOffset? t.zoneText = some t.offset := by
  unfold zoneText
  split
  · rename_i utc
    rw [utc]
    rfl
  -- half a minute is added before the division, which changes nothing for whole minutes
  · obtain ⟨m, hm, whole, small⟩ : ∃ m, (t.offset.natAbs + 30) / 60 = m ∧ t.offset.natAbs = 60 * m ∧ m < 1440 :=
      ⟨t.offset.natAbs / 60, by omega⟩
    have total : m / 60 * 3600 + m % 60 * 60 = t.offset.natAbs := by omega
    have hours := fun sign => pair?_padded sign (':' :: padded 2 (m % 60)) (show m / 60 < 100 by omega)
    have rest := pair?_padded ':' [] (show m % 60 < 100 by omega)
    rw [List.append_nil] at rest
    rw [offsetText]
    simp only [hm]
    split
    · rename_i negative
      simp [toldOffset?, hours, rest]
      omega
    · rename_i positive
      simp [toldOffset?, hours, rest]
      omega

/-- The text of a whole second tells this second, if local time is whole minutes away from UTC. -/
theorem tells_zuluText {t : Timestamp} (nanos : t.nanos = 0) (offset : -86400 < t.offset ∧ t.offset < 86400)
    (minutes : t.offset % 60 = 0) : Tells t.zuluText t.seconds t.offset := by
  have real : t.localDate.IsReal := Date.isReal_ofDays _
  obtain ⟨month₁, month₁₂, day₁, day_le⟩ := id real
  have day₃₁ : t.localDate.day ≤ 31 := Nat.le_trans day_le (Date.monthLength_le _ _)
  have falls : t.localDate.FallsOn ((t.seconds + t.offset) / 86400) := Date.fallsOn_ofDays _
  -- the second of the local day; date and time of day are those of local time
  generalize hs : ((t.seconds + t.offset) % 86400).toNat = second
  refine ⟨⟨t.localDate, second / 3600, second / 60 % 60, second % 60, t.offset⟩, _, ?_,
    ⟨real, by dsimp only; omega, Nat.mod_lt _ (by decide), Nat.mod_lt _ (by decide), offset⟩, falls, ?_, rfl⟩
  · rw [zuluText_eq nanos]
    simp only [show secondsPerDay = 86400 from rfl, hs]
    unfold told?
    rw [toldYear?_yearText _ (by simp; decide)]
    simp only [Option.bind_eq_bind, Option.bind_some,
      pair?_padded _ _ (show t.localDate.month < 100 by omega), pair?_padded _ _ (show t.localDate.day < 100 by omega),
      pair?_padded _ _ (show second / 3600 < 100 by omega), pair?_padded _ _ (show second / 60 % 60 < 100 by omega),
      pair?_padded _ _ (show second % 60 < 100 by omega), toldOffset?_zoneText offset minutes]
  · dsimp only
    omega

end Timestamp

/-- The text at the end of a path of members. -/
def Json.Value.textAt? : List String → Json.Value → Option String
  | [], .string s => some s
  | name :: path, .object members => (members.lookup name).bind (textAt? path)
  | _, _ => none

namespace Commit

open Timestamp (Tells)

/-! ## The text of a person -/

theorem Identity.IsDated.tells {i : Identity} (h : i.IsDated) :
    Tells i.person.timestamp.zuluText i.seconds i.zone.offset :=
  Timestamp.tells_zuluText rfl h.zone i.offset_mod

theorem exists_commitAccess_of_not_isDated {i : Identity} (h : ¬i.IsDated) :
    ∃ detail, personOf i = .error (.commitAccess detail) := by
  cases hp : personOf i with
  | ok p => exact absurd (exists_person_iff.1 ⟨p, hp⟩) h
  | error fault =>
    obtain ⟨detail, rfl⟩ := commitAccess_of_personOf hp
    exact ⟨detail, rfl⟩

/-- The people of an accepted commit are those of its two identities. -/
theorem people_of_ofRaw {hash : String} {raw : Bytes} {o : Object} {c : CommitGate.Commit}
    (read : Object.read? raw = some o) (h : ofRaw hash raw = .ok c) :
    (o.author.IsDated ∧ c.author = o.author.person) ∧ o.committer.IsDated ∧ c.committer = o.committer.person := by
  obtain ⟨o', _, author, committer, read', -, ha, hc, rfl⟩ := ofRaw_eq_ok_iff.1 h
  obtain rfl := Option.some.inj (read.symm.trans read')
  exact ⟨personOf_eq_ok_iff.1 ha, personOf_eq_ok_iff.1 hc⟩

/-- What is published of a person has the text of its moment. -/
theorem published?_textAt? {p : Person} {doc : Json.Value} (h : p.published? = some doc) :
    doc.textAt? ["timestamp"] = some p.timestamp.zuluText := by
  rw [Person.published?_eq] at h
  split at h
  · cases h
    rfl
  · cases h

/-- The text that is published of a person tells its second and its offset. -/
theorem exists_text_of_published? {i : Identity} {p : Person} {doc : Json.Value} (ok : personOf i = .ok p)
    (h : p.published? = some doc) :
    ∃ text, doc.textAt? ["timestamp"] = some text ∧ Tells text i.seconds i.zone.offset := by
  obtain ⟨dated, rfl⟩ := personOf_eq_ok_iff.1 ok
  exact ⟨_, published?_textAt? h, dated.tells⟩

/-- So does the text of either person in what is published of a commit. -/
theorem exists_text_of_snapshot {hash : String} {raw : Bytes} {o : Object} {c : CommitGate.Commit}
    {doc : Json.Value} (read : Object.read? raw = some o) (ok : ofRaw hash raw = .ok c)
    (h : c.snapshot.published? = some doc) {role : String} {i : Identity}
    (hi : (role, i) ∈ [("author", o.author), ("committer", o.committer)]) :
    ∃ text, doc.textAt? [role, "timestamp"] = some text ∧ Tells text i.seconds i.zone.offset := by
  obtain ⟨⟨authorDated, author⟩, committerDated, committer⟩ := people_of_ofRaw read ok
  rw [Snapshot.published?_eq] at h
  split at h
  · cases h
    simp only [List.mem_cons, List.not_mem_nil, or_false, Prod.mk.injEq] at hi
    rcases hi with ⟨rfl, rfl⟩ | ⟨rfl, rfl⟩
    · exact ⟨c.author.timestamp.zuluText, rfl, author ▸ authorDated.tells⟩
    · exact ⟨c.committer.timestamp.zuluText, rfl, committer ▸ committerDated.tells⟩
  · cases h

/-- A commit that names somebody without a timestamp is refused. -/
theorem exists_commitAccess_of_undated {hash : String} {raw : Bytes} {o : Object}
    (read : Object.read? raw = some o) {role : String} {i : Identity}
    (hi : (role, i) ∈ [("author", o.author), ("committer", o.committer)]) (undated : ¬∃ p, personOf i = .ok p) :
    ∃ detail, ofRaw hash raw = .error (.commitAccess detail) := by
  refine exists_commitAccess_of_not_isOk ?_
  rintro ⟨c, accepted⟩
  obtain ⟨⟨author, -⟩, committer, -⟩ := people_of_ofRaw read accepted
  simp only [List.mem_cons, List.not_mem_nil, or_false, Prod.mk.injEq] at hi
  rcases hi with ⟨-, rfl⟩ | ⟨-, rfl⟩
  · exact undated (exists_person_iff.2 author)
  · exact undated (exists_person_iff.2 committer)

/-- An identity has a person exactly if its offset is less than a day and its second lies in the years −262143 to
262142 of UTC, as one counts the days from date to date; any other is refused with one kind of fault, and so is
the commit that names it. A person is published exactly if its local date has such a year too. The text that is then
published is a date of the calendar with a time of day and an offset; together they tell the second and the offset
that stand in the commit, so different ones have different texts. -/
theorem published_tells (hash : String) (raw : Bytes) :
    (∀ i : Identity, ((∃ p, personOf i = .ok p) ↔
        (-86400 < i.zone.offset ∧ i.zone.offset < 86400) ∧
          -8334601228800 ≤ i.seconds ∧ i.seconds ≤ 8210266876799) ∧
      ((∃ p, personOf i = .ok p) ∨ ∃ detail, personOf i = .error (.commitAccess detail))) ∧
    (∀ seconds : Int, ∃ d : Date, d.FallsOn (seconds / 86400) ∧
      ((-8334601228800 ≤ seconds ∧ seconds ≤ 8210266876799) ↔ -262143 ≤ d.year ∧ d.year ≤ 262142)) ∧
    (∀ i p, personOf i = .ok p →
      (p.published?.isSome ↔
        -8334601228800 ≤ i.seconds + i.zone.offset ∧ i.seconds + i.zone.offset ≤ 8210266876799) ∧
      ∀ doc, p.published? = some doc → ∃ text, doc.textAt? ["timestamp"] = some text ∧
        Tells text i.seconds i.zone.offset) ∧
    (∀ i j p q doc doc', personOf i = .ok p → personOf j = .ok q → p.published? = some doc →
      q.published? = some doc' → (i.seconds ≠ j.seconds ∨ i.zone.offset ≠ j.zone.offset) →
        doc.textAt? ["timestamp"] ≠ doc'.textAt? ["timestamp"]) ∧
    (∀ c, ofRaw hash raw = .ok c →
      c.snapshot.published?.isSome = (c.author.published?.isSome && c.committer.published?.isSome)) ∧
    ∀ o, Object.read? raw = some o → ∀ role i, (role, i) ∈ [("author", o.author), ("committer", o.committer)] →
      (∀ c doc, ofRaw hash raw = .ok c → c.snapshot.published? = some doc →
        ∃ text, doc.textAt? [role, "timestamp"] = some text ∧ Tells text i.seconds i.zone.offset) ∧
      ((¬∃ p, personOf i = .ok p) → ∃ detail, ofRaw hash raw = .error (.commitAccess detail)) := by
  have first : Timestamp.firstSecond = -8334601228800 := by decide
  have last : Timestamp.lastSecond = 8210266876799 := by decide
  refine ⟨fun i => ⟨?_, ?_⟩, fun seconds => ?_, fun i p ok => ⟨?_, fun doc => exists_text_of_published? ok⟩, ?_,
    fun c _ => c.snapshot.isSome_published?, ?_⟩
  · rw [exists_person_iff, ← first, ← last]
    exact ⟨fun h => ⟨h.zone, h.moment⟩, fun h => ⟨h.1, h.2⟩⟩
  · by_cases dated : i.IsDated
    · exact .inl (exists_person_iff.2 dated)
    · exact .inr (exists_commitAccess_of_not_isDated dated)
  · rw [← first, ← last, ← Timestamp.inRange_iff]
    exact ⟨_, Date.fallsOn_ofDays _, Timestamp.inRange_iff_year (Date.fallsOn_ofDays _)⟩
  · obtain ⟨-, rfl⟩ := personOf_eq_ok_iff.1 ok
    rw [← first, ← last, ← Timestamp.inRange_iff, Person.isSome_published?]
    exact Iff.rfl
  · intro i j p q doc doc' hp hq hdoc hdoc' different same
    obtain ⟨text, written, tells⟩ := exists_text_of_published? hp hdoc
    obtain ⟨text', written', tells'⟩ := exists_text_of_published? hq hdoc'
    rw [written, written', Option.some.injEq] at same
    obtain ⟨seconds, offset⟩ := tells.unique (same ▸ tells')
    rcases different with h | h
    · exact h seconds
    · exact h offset
  · intro o read role i hi
    exact ⟨fun c doc ok published => exists_text_of_snapshot read ok published hi,
      exists_commitAccess_of_undated read hi⟩

/-- The last second that there is, one hour ahead of UTC: the commit is accepted and cannot be published. -/
theorem published_tells_undated :
    ∃ c, ofRaw "abc123" (rawAt "8210266876799 +0100") = .ok c ∧ c.snapshot.published? = none := by
  obtain ⟨c, accepted, undated⟩ := exists_undated
  rw [← if_neg undated (t := some c.snapshot.toJson) (e := none), ← Snapshot.published?_eq]
  exact ⟨c, accepted, rfl⟩

end Commit

end CommitGate

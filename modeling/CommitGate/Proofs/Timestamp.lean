import CommitGate.Proofs.Calendar
import CommitGate.Proofs.Text.Decimal
import CommitGate.Timestamp

/-! # Timestamps, written and read

The text of a moment is read as that moment if its local date has a year that the reader knows, and else it is
refused (`parse_zuluText`).

Scope limit: whole seconds, and offsets from UTC in whole minutes.
-/

namespace CommitGate

namespace Timestamp

open Decimal (padded digitValue ofDigits isDigit)

/-! ## Numbers -/

theorem isBlank_of_isDigit {c : Char} (h : isDigit c = true) : Blank.isBlank c = false := by
  have bounds := Decimal.isDigit_iff.1 h
  simp only [Blank.isBlank, Bool.or_eq_false_iff, Bool.and_eq_false_iff, decide_eq_false_iff_not,
    beq_eq_false_iff_ne]
  omega

theorem trimStart_cons {c : Char} {s : List Char} (h : Blank.isBlank c = false) :
    Blank.trimStart (c :: s) = c :: s := by
  rw [Blank.trimStart, List.dropWhile_cons_of_neg (by simp [h])]

/-- Blanks are looked for before a number, but there are none. -/
theorem trimStart_digits {ds s : List Char} (digits : ∀ c ∈ ds, isDigit c = true) (some : ds ≠ []) :
    Blank.trimStart (ds ++ s) = ds ++ s := by
  cases ds with
  | nil => exact absurd rfl some
  | cons d ds => exact trimStart_cons (isBlank_of_isDigit (digits d (List.mem_cons_self ..)))

/-- A number ends where its width does or, if it has fewer digits, before a sign. -/
theorem takeWhile_take_digits {width : Nat} {ds s : List Char} (digits : ∀ c ∈ ds, isDigit c = true)
    (stop : ds.length = width ∨ ds.length ≤ width ∧ ∀ c ∈ s.head?, isDigit c = false) :
    ((ds ++ s).take width).takeWhile isDigit = ds := by
  rcases stop with rfl | ⟨le, sign⟩
  · have all : (ds ++ []).takeWhile isDigit = ds ++ [] := List.takeWhile_append_of_pos digits
    rwa [List.take_left, ← List.append_nil ds]
  · rw [List.take_append, List.take_of_length_le le, List.takeWhile_append_of_pos digits]
    cases s with
    | nil => simp
    | cons c s =>
      have none : ((c :: s).take (width - ds.length)).takeWhile isDigit = [] := by
        cases width - ds.length with
        | zero => rfl
        | succ k => rw [List.take_succ_cons, List.takeWhile_cons_of_neg (by simp [sign c rfl])]
      rw [none, List.append_nil]

theorem number_digits {width : Nat} {ds s : List Char} (digits : ∀ c ∈ ds, isDigit c = true)
    (some : ds ≠ [])
    (stop : ds.length = width ∨ ds.length ≤ width ∧ ∀ c ∈ s.head?, isDigit c = false) :
    number width (ds ++ s) =
      if ofDigits ds ≥ Nat.pow 2 63 then .error .outOfRange else .ok (ofDigits ds, s) := by
  have there : (ds ++ s).isEmpty = false := by simp [some]
  simp only [number, takeWhile_take_digits digits stop, there, List.isEmpty_iff, some, List.drop_left,
    Bool.false_eq_true, if_false]

/-- The tens come first. -/
theorem padded_two {n : Nat} (h : n < 100) : ∃ a b, padded 2 n = [a, b] ∧ isDigit a = true ∧
    isDigit b = true ∧ digitValue a = n / 10 := by
  have length := Decimal.length_padded_two h
  have value := Decimal.ofDigits_padded 2 n
  have digits : ∀ c ∈ padded 2 n, isDigit c = true := fun c => Decimal.isDigit_of_mem_padded
  match hp : padded 2 n, length with
  | [a, b], _ =>
    rw [hp] at value digits
    have unit := Decimal.isDigit_iff.1 (digits b (by simp))
    refine ⟨a, b, rfl, digits a (by simp), digits b (by simp), ?_⟩
    have zero : '0'.toNat = 48 := rfl
    simp only [ofDigits, List.foldl_cons, List.foldl_nil, digitValue, zero] at value ⊢
    omega

theorem padded_ne_nil (width n : Nat) : padded width n ≠ [] := fun h =>
  Decimal.digits_ne_nil n (List.append_eq_nil_iff.1 h).2

/-- A field of two digits is read. -/
theorem field_padded {low high n : Nat} (s : List Char) (small : n < 100) (le : low ≤ n) (ge : n ≤ high) :
    field low high (padded 2 n ++ s) = .ok (n, s) := by
  have digits : ∀ c ∈ padded 2 n, isDigit c = true := fun c => Decimal.isDigit_of_mem_padded
  have read := number_digits (s := s) digits (padded_ne_nil 2 n) (.inl (Decimal.length_padded_two small))
  have fits : ¬ n ≥ Nat.pow 2 63 := Nat.not_le.2 (Nat.lt_trans small (by decide))
  rw [Decimal.ofDigits_padded, if_neg fits] at read
  rw [field, trimStart_digits digits (padded_ne_nil 2 n), read]
  simp [bind, Except.bind, le, ge]

/-- The years that are read, whether or not the calendar has them. -/
def isReadable (y : Int) : Bool := -(Nat.pow 2 31 : Int) ≤ y && y < Nat.pow 2 31

/-- A year that begins with a character, of which there may be too many digits for a calendar. -/
def yearFrom (c : Char) (s : List Char) : Except ReadError (Int × List Char) :=
  if c = '-' then (number s.length s).map fun x => (-(x.1 : Int), x.2)
  else if c = '+' then (number s.length s).map fun x => ((x.1 : Int), x.2)
  else (number 4 (c :: s)).map fun x => ((x.1 : Int), x.2)

theorem year_cons {c : Char} (s : List Char) (h : Blank.isBlank c = false) :
    year (c :: s) = yearFrom c s >>= fun x => if isReadable x.1 then .ok x else .error .outOfRange := by
  unfold year yearFrom
  rw [trimStart_cons h]
  split
  · rename_i heq
    rw [List.cons.injEq] at heq
    rw [if_pos heq.1, heq.2]
    rfl
  · rename_i heq
    rw [List.cons.injEq] at heq
    rw [if_neg (by rw [heq.1]; decide), if_pos heq.1, heq.2]
    rfl
  · rename_i minus plus
    rw [if_neg fun same => minus s (by rw [same]), if_neg fun same => plus s (by rw [same])]
    rfl

/-- The digits of a year with a sign are read to their end. -/
theorem number_year (y : Int) {s : List Char} (stop : ∀ c ∈ s.head?, isDigit c = false) :
    number (padded 4 y.natAbs ++ s).length (padded 4 y.natAbs ++ s) =
      if y.natAbs ≥ Nat.pow 2 63 then .error .outOfRange else .ok (y.natAbs, s) := by
  rw [number_digits (fun c => Decimal.isDigit_of_mem_padded) (padded_ne_nil 4 _)
    (.inr ⟨by rw [List.length_append]; omega, stop⟩), Decimal.ofDigits_padded]

/-- A year without a sign is read by its four digits. -/
theorem exists_shortYear {y : Nat} (short : y ≤ 9999) (s : List Char) :
    ∃ c t, padded 4 y = c :: t ∧ Blank.isBlank c = false ∧ yearFrom c (t ++ s) = .ok ((y : Int), s) := by
  have digits : ∀ c ∈ padded 4 y, isDigit c = true := fun c => Decimal.isDigit_of_mem_padded
  have small : ¬ y ≥ Nat.pow 2 63 := Nat.not_le.2 (Nat.lt_of_le_of_lt short (by decide))
  have read := number_digits (s := s) digits (padded_ne_nil 4 y)
    (.inl (Decimal.length_padded_four (by omega)))
  rw [Decimal.ofDigits_padded, if_neg small] at read
  cases hp : padded 4 y with
  | nil => exact absurd hp (padded_ne_nil 4 y)
  | cons d ds =>
    have digit : isDigit d = true := digits d (by rw [hp]; exact List.mem_cons_self ..)
    have minus : d ≠ '-' := by
      rintro rfl
      cases digit
    have plus : d ≠ '+' := by
      rintro rfl
      cases digit
    rw [hp, List.cons_append] at read
    refine ⟨d, ds, rfl, isBlank_of_isDigit digit, ?_⟩
    rw [yearFrom, if_neg minus, if_neg plus, read]
    rfl

theorem exists_yearText (y : Int) (s : List Char) (stop : ∀ c ∈ s.head?, isDigit c = false) :
    ∃ c t, yearText y = c :: t ∧ Blank.isBlank c = false ∧
      yearFrom c (t ++ s) =
        if y.natAbs ≥ Nat.pow 2 63 then .error .outOfRange else .ok (y, s) := by
  unfold yearText
  split
  · rename_i short
    rw [Bool.and_eq_true, decide_eq_true_eq, decide_eq_true_eq] at short
    have small : ¬ y.natAbs ≥ Nat.pow 2 63 :=
      Nat.not_le.2 (Nat.lt_of_le_of_lt (show y.natAbs ≤ 9999 by omega) (by decide))
    obtain ⟨c, t, text, sign, read⟩ := exists_shortYear (show y.toNat ≤ 9999 by omega) s
    rw [Int.toNat_of_nonneg short.1] at read
    exact ⟨c, t, text, sign, by rw [read, if_neg small]⟩
  · split
    · have same : -(y.natAbs : Int) = y := by omega
      refine ⟨'-', _, rfl, by decide, ?_⟩
      rw [yearFrom, if_pos rfl, number_year y stop]
      split
      · rfl
      · simp only [Except.map, same]
    · rename_i long positive
      have same : (y.natAbs : Int) = y := by omega
      refine ⟨'+', _, rfl, by decide, ?_⟩
      rw [yearFrom, if_neg (by decide), if_pos rfl, number_year y stop]
      split
      · rfl
      · simp only [Except.map, same]

/-- A year is read, unless it is too large for any calendar. -/
theorem year_yearText (y : Int) (s : List Char) (stop : ∀ c ∈ s.head?, isDigit c = false) :
    year (yearText y ++ s) = if isReadable y then .ok (y, s) else .error .outOfRange := by
  obtain ⟨c, t, written, sign, read⟩ := exists_yearText y s stop
  rw [written, List.cons_append, year_cons _ sign, read]
  split
  · rename_i large
    have unreadable : isReadable y = false := by
      simp only [isReadable, Bool.and_eq_false_iff, decide_eq_false_iff_not]
      have bound : Nat.pow 2 31 < Nat.pow 2 63 := by decide
      omega
    rw [unreadable]
    rfl
  · rfl

/-! ## Offsets -/

theorem offsetDigits_padded {limit n : Nat} (s : List Char) (small : n < 100) (tens : n / 10 < limit) :
    offsetDigits limit (padded 2 n ++ s) = .ok (n, s) := by
  have value := Decimal.ofDigits_padded 2 n
  obtain ⟨a, b, written, ha, hb, digit⟩ := padded_two small
  rw [written] at value ⊢
  change twoDigits limit (a :: b :: s) = _
  rw [twoDigits, if_pos (by rw [ha, hb]; rfl), if_pos (by rw [digit]; exact tens), value]

theorem signed_text {c : Char} {hours minutes : Nat} (sign : c = '+' ∨ c = '-') (hh : hours < 24)
    (hm : minutes < 60) :
    zone.signed (c :: (padded 2 hours ++ ':' :: padded 2 minutes)) =
      .ok (if c = '-' then -((hours * 3600 + minutes * 60 : Nat) : Int)
        else (hours * 3600 + minutes * 60 : Nat), []) := by
  obtain ⟨a, b, written, digit, -, -⟩ := padded_two (show minutes < 100 by omega)
  have colon : (':' :: padded 2 minutes).dropWhile (fun c => c = ':' || Blank.isBlank c) =
      padded 2 minutes := by
    have notColon : a ≠ ':' := by
      rintro rfl
      cases digit
    simp [written, notColon, isBlank_of_isDigit digit]
  have readHours := offsetDigits_padded (':' :: padded 2 minutes) (show hours < 100 by omega)
    (show hours / 10 < 10 by omega)
  have readMinutes := offsetDigits_padded [] (show minutes < 100 by omega) (show minutes / 10 < 6 by omega)
  rw [List.append_nil] at readMinutes
  rcases sign with rfl | rfl
  · simp [zone.signed, bind, Except.bind, readHours, colon, readMinutes]
  · simp [zone.signed, bind, Except.bind, readHours, colon, readMinutes]

/-- A sign begins no name of UTC. -/
theorem zone_sign {c : Char} (s : List Char) (sign : c = '+' ∨ c = '-') :
    zone (c :: s) = zone.signed (c :: s) := by
  unfold zone
  split
  · rename_i heq
    rw [List.cons.injEq] at heq
    rcases sign with rfl | rfl <;> exact absurd heq.1 (by decide)
  · rename_i heq
    rw [List.cons.injEq] at heq
    rcases sign with rfl | rfl <;> exact absurd heq.1 (by decide)
  · rename_i heq
    rw [List.cons.injEq] at heq
    rw [if_neg]
    intro utc
    rw [List.map_cons, List.cons.injEq, ← heq.1] at utc
    rcases sign with rfl | rfl <;> exact absurd utc.1 (by decide)
  · rfl

/-- An offset in whole minutes is read back. -/
theorem zone_offsetText {offset : Int} (h : -86400 < offset ∧ offset < 86400) (whole : offset % 60 = 0) :
    zone (offsetText offset) = .ok (offset, []) := by
  obtain ⟨m, hm⟩ : ∃ m, (offset.natAbs + 30) / 60 = m ∧ offset.natAbs = 60 * m ∧ m < 1440 :=
    ⟨offset.natAbs / 60, by omega⟩
  have total : m / 60 * 3600 + m % 60 * 60 = offset.natAbs := by omega
  rw [offsetText]
  simp only [hm.1]
  have sign : (if offset < 0 then '-' else '+') = '+' ∨ (if offset < 0 then '-' else '+') = '-' := by
    split <;> simp
  rw [zone_sign _ sign, signed_text sign (by omega) (by omega), total]
  split
  · rename_i negative
    rw [if_pos rfl, show -(offset.natAbs : Int) = offset by omega]
  · rw [if_neg (by decide), show (offset.natAbs : Int) = offset by omega]

/-! ## Moments -/

/-- The local date. -/
def localDate (t : Timestamp) : Date := Date.ofDays ((t.seconds + t.offset) / secondsPerDay)

theorem inRange_iff {seconds : Int} :
    inRange seconds = true ↔ firstSecond ≤ seconds ∧ seconds ≤ lastSecond := by
  rw [inRange, Bool.and_eq_true, decide_eq_true_eq, decide_eq_true_eq]

theorem isOffset_iff {offset : Int} : isOffset offset = true ↔ -86400 < offset ∧ offset < 86400 := by
  rw [isOffset, Bool.and_eq_true, decide_eq_true_eq, decide_eq_true_eq]
  exact Iff.rfl

/-- The seconds that have a timestamp are those of the years −262143 to 262142 in UTC. -/
theorem inRange_iff_year {seconds : Int} {d : Date} (h : d.FallsOn (seconds / 86400)) :
    inRange seconds = true ↔ -262143 ≤ d.year ∧ d.year ≤ 262142 := by
  -- the first second of the first year, and the last one before the year that follows the last
  have first : Date.toDays ⟨-262143, 1, 1⟩ * 86400 = firstSecond := rfl
  have last : Date.toDays ⟨262143, 1, 1⟩ * 86400 - 1 = lastSecond := rfl
  have early := h.isReal.year_lt_iff (-262143)
  have late := h.isReal.year_lt_iff 262143
  rw [h.toDays_eq] at early late
  rw [inRange_iff]
  omega

/-- The reader knows the year of the local date. -/
def IsDatable (t : Timestamp) : Prop := -262143 ≤ t.localDate.year ∧ t.localDate.year ≤ 262142

instance (t : Timestamp) : Decidable t.IsDatable := inferInstanceAs (Decidable (_ ∧ _))

/-- What can be published is what the reader knows. -/
theorem isWritable_iff {t : Timestamp} : t.isWritable = true ↔ t.IsDatable := by
  rw [isWritable, inRange_iff_year (Date.fallsOn_ofDays _)]
  exact Iff.rfl

/-- A whole second that has a timestamp, with an offset of less than a day in whole minutes. -/
structure IsNoted (t : Timestamp) : Prop where
  seconds : inRange t.seconds = true
  nanos : t.nanos = 0
  offset : -86400 < t.offset ∧ t.offset < 86400
  minutes : t.offset % 60 = 0

theorem separator_self {c : Char} (s : List Char) (h : Blank.isBlank c = false) :
    separator c (c :: s) = .ok s := by
  rw [separator, trimStart_cons h]
  exact if_pos rfl

/-- The text of the offset ends the text of a moment. -/
def zoneText (t : Timestamp) : List Char := if t.offset = 0 then ['Z'] else offsetText t.offset

theorem zone_zoneText {t : Timestamp} (h : t.IsNoted) : zone t.zoneText = .ok (t.offset, []) := by
  unfold zoneText
  split
  · rename_i utc
    rw [utc]
    rfl
  · exact zone_offsetText h.offset h.minutes

theorem exists_zoneText (t : Timestamp) :
    ∃ c s, t.zoneText = c :: s ∧ Blank.isBlank c = false ∧ c ≠ '.' := by
  unfold zoneText offsetText
  split
  · exact ⟨_, _, rfl, by decide, by decide⟩
  · split
    · exact ⟨_, _, rfl, by decide, by decide⟩
    · exact ⟨_, _, rfl, by decide, by decide⟩

/-- There is no fraction before the offset. -/
theorem fraction_zoneText (t : Timestamp) : fraction t.zoneText = .ok (0, t.zoneText) := by
  obtain ⟨c, s, text, -, point⟩ := exists_zoneText t
  rw [text]
  unfold fraction
  split
  · rename_i heq
    exact absurd (List.cons.inj heq).1 point
  · rfl

theorem trimStart_zoneText (t : Timestamp) : Blank.trimStart t.zoneText = t.zoneText := by
  obtain ⟨c, s, text, sign, -⟩ := exists_zoneText t
  rw [text, trimStart_cons sign]

theorem zuluText_eq {t : Timestamp} (h : t.nanos = 0) :
    t.zuluText.toList = yearText t.localDate.year ++ '-' :: (padded 2 t.localDate.month ++ '-' ::
      (padded 2 t.localDate.day ++ 'T' ::
      (padded 2 (((t.seconds + t.offset) % secondsPerDay).toNat / 3600) ++ ':' ::
      (padded 2 (((t.seconds + t.offset) % secondsPerDay).toNat / 60 % 60) ++ ':' ::
      (padded 2 (((t.seconds + t.offset) % secondsPerDay).toNat % 60) ++ t.zoneText))))) := by
  simp [zuluText, localText, localDate, zoneText, h, fractionText]

/-- The reader refuses a date by its year exactly if the moment is not datable. -/
theorem isUnknown_eq (t : Timestamp) :
    (decide (t.localDate.year < -262143) || decide (262142 < t.localDate.year)) = !decide t.IsDatable := by
  by_cases datable : t.IsDatable
  · rw [decide_eq_true datable, Bool.not_true, Bool.or_eq_false_iff, decide_eq_false_iff_not,
      decide_eq_false_iff_not]
    rw [IsDatable] at datable
    omega
  · rw [decide_eq_false datable, Bool.not_false, Bool.or_eq_true, decide_eq_true_eq, decide_eq_true_eq]
    rw [IsDatable] at datable
    omega

theorem IsDatable.isReadable {t : Timestamp} (h : t.IsDatable) : isReadable t.localDate.year = true := by
  have pow : Nat.pow 2 31 = 2147483648 := rfl
  rw [IsDatable] at h
  simp only [Timestamp.isReadable, pow, Bool.and_eq_true, decide_eq_true_eq]
  omega

/-- A moment is its local date and the time of that day, less the offset. -/
theorem seconds_eq (t : Timestamp) {second : Nat} (h : ((t.seconds + t.offset) % 86400).toNat = second) :
    (⟨t.localDate.year, t.localDate.month, t.localDate.day⟩ : Date).toDays * secondsPerDay +
      (second / 3600 * 3600 + second / 60 % 60 * 60 + second % 60 - second % 60 / 60 : Nat) - t.offset =
      t.seconds := by
  have days : t.localDate.toDays = (t.seconds + t.offset) / 86400 := Date.toDays_ofDays _
  change t.localDate.toDays * 86400 + _ - _ = _
  rw [days]
  omega

/-- The text of a moment is read back, if the reader knows the year. -/
theorem parse_zuluText {t : Timestamp} (h : t.IsNoted) :
    parse t.zuluText.toList = if t.IsDatable then .ok t else .error .outOfRange := by
  have real : t.localDate.IsReal := Date.isReal_ofDays _
  have ahead : isOffset t.offset = true := isOffset_iff.2 h.offset
  obtain ⟨month₁, month₁₂, day₁, day_le⟩ := id real
  have day₃₁ : t.localDate.day ≤ 31 := Nat.le_trans day_le (Date.monthLength_le _ _)
  rw [zuluText_eq h.nanos]
  simp only [show secondsPerDay = 86400 from rfl]
  generalize hs : ((t.seconds + t.offset) % 86400).toNat = second
  have second_lt : second < 86400 := by omega
  have leap : second % 60 / 60 = 0 := by omega
  unfold parse
  rw [year_yearText _ _ (by simp; decide)]
  by_cases readable : isReadable t.localDate.year = true
  · rw [if_pos readable]
    -- the parts of the text are read one after the other
    simp only [bind, Except.bind, separator_self _ (show Blank.isBlank '-' = false by decide),
      separator_self _ (show Blank.isBlank ':' = false by decide),
      field_padded _ (show t.localDate.month < 100 by omega) month₁ month₁₂,
      field_padded _ (show t.localDate.day < 100 by omega) day₁ day₃₁,
      field_padded _ (show second / 3600 < 100 by omega) (Nat.zero_le _) (show second / 3600 ≤ 23 by omega),
      field_padded _ (show second / 60 % 60 < 100 by omega) (Nat.zero_le _)
        (show second / 60 % 60 ≤ 59 by omega),
      field_padded _ (show second % 60 < 100 by omega) (Nat.zero_le _) (show second % 60 ≤ 60 by omega),
      fraction_zoneText, trimStart_zoneText, zone_zoneText h]
    rw [if_pos (by decide), if_neg (by decide)]
    -- they are the parts of the moment, so only the year can be refused
    simp only [seconds_eq t hs, h.seconds, decide_eq_true real, ahead, isUnknown_eq]
    by_cases datable : t.IsDatable
    · simp only [datable, leap, decide_true, Bool.not_true, Bool.or_self, Bool.false_eq_true, if_false,
        if_true, Nat.zero_mul, Nat.add_zero]
      rw [← h.nanos]
    · simp [datable]
  · rw [if_neg readable, if_neg fun datable => readable datable.isReadable]
    rfl

end Timestamp

end CommitGate

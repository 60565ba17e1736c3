import CommitGate.Calendar

/-! # The date of a day

Every day falls on a date of the calendar (`isReal_ofDays`), and the day is the one on which its date falls
(`toDays_ofDays`). Going through the calendar from date to date leads to the same days (`fallsOn_ofDays`,
`FallsOn.toDays_eq`).

A day of a cycle is taken apart into centuries, groups of four years, years and days. The last of each may be
longer by the leap day.
-/

namespace CommitGate

namespace Date

/-- A day of a cycle in centuries, groups of four years, years and days. -/
structure Parts where
  centuries : Nat
  groups : Nat
  years : Nat
  days : Nat
  centuries_le : centuries ≤ 3
  groups_le : groups ≤ 24
  years_le : years ≤ 3
  days_le : days ≤ 365
  /-- The leap day stands at the end of a group, but at the end of a century only if a cycle ends. -/
  leap : days = 365 → years = 3 ∧ (groups = 24 → centuries = 3)

namespace Parts

variable (p : Parts)

/-- The day of the cycle. -/
def day : Nat := 36524 * p.centuries + 1461 * p.groups + 365 * p.years + p.days

/-- The year of the cycle. -/
def year : Nat := 100 * p.centuries + 4 * p.groups + p.years

/-- The month of the year, from March (0). -/
def month : Nat := (5 * p.days + 2) / 153

theorem exists_of_day {day : Nat} (h : day < 146097) : ∃ p : Parts, p.day = day := by
  let c := min (day / 36524) 3
  let g := (day - 36524 * c) / 1461
  let y := min ((day - 36524 * c - 1461 * g) / 365) 3
  have hc : c ≤ 3 ∧ 36524 * c ≤ day ∧ day ≤ 36524 * c + 36524 ∧ (day = 36524 * c + 36524 → c = 3) := by
    omega
  have hg : g ≤ 24 ∧ 36524 * c + 1461 * g ≤ day ∧ day < 36524 * c + 1461 * g + 1461 := by
    omega
  have hy : y ≤ 3 ∧ 36524 * c + 1461 * g + 365 * y ≤ day ∧
      day ≤ 36524 * c + 1461 * g + 365 * y + 365 ∧
      (day = 36524 * c + 1461 * g + 365 * y + 365 → y = 3) := by
    omega
  clear_value c g y
  let rest := day - 36524 * c - 1461 * g - 365 * y
  have small : rest ≤ 365 := by omega
  have leap : rest = 365 → y = 3 ∧ (g = 24 → c = 3) := by omega
  refine ⟨⟨c, g, y, rest, hc.1, hg.1, hy.1, small, leap⟩, ?_⟩
  simp only [Parts.day]
  omega

theorem year_eq : (p.day - p.day / 1460 + p.day / 36524 - p.day / 146096) / 365 = p.year := by
  obtain ⟨c, g, y, d, hc, hg, hy, hd, leap⟩ := p
  simp only [Parts.day, Parts.year]
  generalize h : 36524 * c + 1461 * g + 365 * y + d = day
  have centuries : day / 36524 - day / 146096 = c := by omega
  have groups : day / 1460 = 25 * c + g + if 1460 ≤ 24 * c + g + 365 * y + d then 1 else 0 := by
    split <;> omega
  have whole : day - day / 1460 + day / 36524 - day / 146096 = day - day / 1460 + c := by omega
  rw [whole, groups]
  split <;> omega

theorem dayOfYear_eq : p.day - (365 * p.year + p.year / 4 - p.year / 100) = p.days := by
  obtain ⟨c, g, y, d, hc, hg, hy, hd, leap⟩ := p
  simp only [Parts.day, Parts.year]
  omega

theorem year_lt : p.year < 400 := by
  obtain ⟨c, g, y, d, hc, hg, hy, hd, leap⟩ := p
  simp only [Parts.year]
  omega

/-- The years before the day's year have 365 days each, and their leap days. -/
theorem day_eq : (p.day : Int) = p.year * 365 + p.year / 4 - p.year / 100 + p.days := by
  obtain ⟨c, g, y, d, hc, hg, hy, hd, leap⟩ := p
  simp only [Parts.day, Parts.year]
  omega

theorem month_le : p.month ≤ 11 := by
  have := p.days_le
  simp only [Parts.month]
  omega

/-- The date of the day in a cycle. -/
def date (cycle : Int) : Date where
  year := cycle * 400 + p.year + if p.month < 10 then 0 else 1
  month := if p.month < 10 then p.month + 3 else p.month - 9
  day := p.days - daysBeforeMonth p.month + 1

end Parts

/-- A day is one of a cycle of four centuries. -/
theorem exists_parts (days : Int) : ∃ (cycle : Int) (p : Parts),
    days = cycle * 146097 + p.day - 719468 ∧ ofDays days = p.date cycle := by
  have small : ((days + 719468) % 146097).toNat < 146097 := by omega
  obtain ⟨p, hp⟩ := Parts.exists_of_day small
  refine ⟨(days + 719468) / 146097, p, by omega, ?_⟩
  simp only [ofDays, ← hp, p.year_eq, p.dayOfYear_eq]
  rfl

theorem toDays_ofDays (days : Int) : toDays (ofDays days) = days := by
  obtain ⟨cycle, p, rfl, date⟩ := exists_parts days
  rw [date]
  have month := p.month_le
  have before : daysBeforeMonth p.month ≤ p.days := by
    simp only [daysBeforeMonth, Parts.month]
    omega
  have year : (p.date cycle).month ≤ 2 ↔ 10 ≤ p.month := by
    simp only [Parts.date]
    split <;> omega
  have number : ((p.date cycle).month + 9) % 12 = p.month := by
    simp only [Parts.date]
    split <;> omega
  have shifted : (if (p.date cycle).month ≤ 2 then (p.date cycle).year - 1 else (p.date cycle).year) =
      cycle * 400 + p.year := by
    simp only [year]
    simp only [Parts.date]
    split <;> split <;> omega
  have dayOfYear : daysBeforeMonth p.month + (p.date cycle).day = p.days + 1 := by
    simp only [Parts.date]
    omega
  have small := p.year_lt
  have cycles : (cycle * 400 + p.year) / 400 = cycle := by omega
  have yearOfCycle : (cycle * 400 + p.year) % 400 = p.year := by omega
  simp only [toDays, shifted, number, dayOfYear, cycles, yearOfCycle]
  have start := p.day_eq
  omega

theorem monthLength_le (year : Int) (month : Nat) : monthLength year month ≤ 31 := by
  unfold monthLength
  repeat' split
  all_goals decide

/-- Only the length of February depends on the year. -/
theorem monthLength_of_ne_two (year : Int) {month : Nat} (h : month ≠ 2) :
    monthLength year month = monthLength 0 month := by
  simp only [monthLength, h, if_false]

theorem length_of_month : ∀ m < 11, daysBeforeMonth (m + 1) - daysBeforeMonth m ≤
    monthLength 0 (if m < 10 then m + 3 else m - 9) := by
  decide

theorem isReal_ofDays (days : Int) : (ofDays days).IsReal := by
  obtain ⟨cycle, p, -, date⟩ := exists_parts days
  rw [date]
  have month := p.month_le
  have start : daysBeforeMonth p.month ≤ p.days ∧ p.days < daysBeforeMonth (p.month + 1) := by
    simp only [daysBeforeMonth, Parts.month]
    omega
  have long : p.days = 365 → isLeap (cycle * 400 + p.year + 1) = true := by
    intro h
    obtain ⟨c, g, y, d, hc, hg, hy, hd, leap⟩ := p
    obtain ⟨rfl, full⟩ := leap h
    simp only [isLeap, Bool.and_eq_true, Bool.or_eq_true, decide_eq_true_eq]
    simp only [Parts.year]
    omega
  have small := p.days_le
  simp only [IsReal, Parts.date]
  generalize p.month = m at *
  refine ⟨by split <;> omega, by split <;> omega, by omega, ?_⟩
  by_cases february : m = 11
  · rw [february] at start ⊢
    have first : daysBeforeMonth 11 = 337 := rfl
    rw [if_neg (by decide), if_neg (by decide), monthLength, if_pos rfl, first]
    split
    · omega
    · rename_i short
      have : p.days ≠ 365 := fun h => short (long h)
      omega
  · have length := length_of_month m (by omega)
    rw [monthLength_of_ne_two _ (by split <;> omega)]
    omega

/-! ## From one day to the next -/

/-- The date after a date. -/
def next (d : Date) : Date :=
  if d.day < monthLength d.year d.month then { d with day := d.day + 1 }
  else if d.month < 12 then ⟨d.year, d.month + 1, 1⟩
  else ⟨d.year + 1, 1, 1⟩

/-- The date stands so many days behind 1970-01-01, or before it for a negative number, as one goes through the
calendar from date to date. -/
inductive FallsOn : Date → Int → Prop
  | start : FallsOn ⟨1970, 1, 1⟩ 0
  | forth {d : Date} {days : Int} (h : FallsOn d days) : FallsOn d.next (days + 1)
  | back {d : Date} {days : Int} (real : d.IsReal) (h : FallsOn d.next days) : FallsOn d (days - 1)

theorem one_le_monthLength (year : Int) (month : Nat) : 1 ≤ monthLength year month := by
  unfold monthLength
  repeat' split
  all_goals decide

theorem IsReal.next {d : Date} (h : d.IsReal) : d.next.IsReal := by
  obtain ⟨month₁, month₁₂, day₁, -⟩ := h
  unfold Date.next
  split
  · rename_i within
    exact ⟨month₁, month₁₂, Nat.le_add_left .., within⟩
  split
  · rename_i month
    exact ⟨Nat.le_add_left .., month, Nat.le_refl _, one_le_monthLength ..⟩
  · exact ⟨Nat.le_refl 1, Nat.le_add_left 1 11, Nat.le_refl _, one_le_monthLength ..⟩

/-- The days of the years before one that starts in March. -/
def daysBeforeYear (year : Int) : Int :=
  year / 400 * 146097 + (year % 400 * 365 + year % 400 / 4 - year % 400 / 100)

/-- A year that starts in March ends with the February of the next one. -/
theorem daysBeforeYear_succ (year : Int) :
    daysBeforeYear year = daysBeforeYear (year - 1) + 337 + monthLength year 2 := by
  by_cases leap : isLeap year = true
  · have february : monthLength year 2 = 29 := if_pos leap
    simp only [isLeap, Bool.and_eq_true, Bool.or_eq_true, decide_eq_true_eq] at leap
    rw [february]
    simp only [daysBeforeYear]
    omega
  · have february : monthLength year 2 = 28 := if_neg leap
    simp only [isLeap, Bool.and_eq_true, Bool.or_eq_true, decide_eq_true_eq] at leap
    rw [february]
    simp only [daysBeforeYear]
    omega

theorem toDays_eq (d : Date) :
    d.toDays = daysBeforeYear (if d.month ≤ 2 then d.year - 1 else d.year) +
      ((daysBeforeMonth ((d.month + 9) % 12) + d.day : Nat) - 1) - 719468 := by
  simp only [toDays, daysBeforeYear]
  omega

/-- Every other month ends where the next one begins. -/
theorem daysBeforeMonth_succ : ∀ month < 13, month ≠ 0 → month ≠ 2 →
    daysBeforeMonth ((month % 12 + 10) % 12) = daysBeforeMonth ((month + 9) % 12) + monthLength 0 month := by
  decide

/-- From date to date there is one day. -/
theorem IsReal.toDays_next {d : Date} (h : d.IsReal) : d.next.toDays = d.toDays + 1 := by
  obtain ⟨month₁, month₁₂, -, last⟩ := h
  obtain ⟨year, month, day⟩ := d
  simp only at month₁ month₁₂ last
  rw [toDays_eq, toDays_eq, Date.next]
  dsimp only
  split
  · dsimp only
    omega
  · rename_i beyond
    have full : day = monthLength year month := Nat.le_antisymm last (Nat.not_lt.1 beyond)
    by_cases february : month = 2
    · subst february
      have turn := daysBeforeYear_succ year
      have march : daysBeforeMonth ((3 + 9) % 12) = 0 := rfl
      have start : daysBeforeMonth ((2 + 9) % 12) = 337 := rfl
      rw [if_pos (show 2 < 12 by decide), march, start, if_neg (show ¬2 + 1 ≤ 2 by decide),
        if_pos (show 2 ≤ 2 by decide)]
      dsimp only
      omega
    · have turn := daysBeforeMonth_succ month (by omega) (by omega) february
      rw [← monthLength_of_ne_two year february, ← full] at turn
      split
      · rename_i within
        have same : (if month + 1 ≤ 2 then year - 1 else year) = if month ≤ 2 then year - 1 else year := by
          split <;> split <;> omega
        rw [Nat.mod_eq_of_lt within] at turn
        simp only [same, show month + 1 + 9 = month + 10 from rfl, turn]
        omega
      · obtain rfl : month = 12 := by omega
        have january : daysBeforeMonth ((1 + 9) % 12) = daysBeforeMonth ((12 + 9) % 12) + day := turn
        rw [january, if_pos (show 1 ≤ 2 by decide), if_neg (show ¬12 ≤ 2 by decide), Int.add_sub_cancel]
        dsimp only
        omega

/-- A day lies before the first of the next month, and the last of all is the leap day. -/
theorem IsReal.dayOfYear_le {d : Date} (h : d.IsReal) :
    daysBeforeMonth ((d.month + 9) % 12) + d.day ≤ daysBeforeMonth ((d.month + 9) % 12 + 1) ∧
    daysBeforeMonth ((d.month + 9) % 12) + d.day ≤ 366 ∧
    (daysBeforeMonth ((d.month + 9) % 12) + d.day = 366 → d.month = 2 ∧ isLeap d.year = true) := by
  obtain ⟨month₁, month₁₂, -, last⟩ := h
  by_cases february : d.month = 2
  · have start : daysBeforeMonth ((2 + 9) % 12) = 337 := rfl
    have stop : daysBeforeMonth ((2 + 9) % 12 + 1) = 367 := rfl
    have short : monthLength d.year 2 = if isLeap d.year then 29 else 28 := rfl
    rw [february, short] at last
    rw [february, start, stop]
    split at last
    · rename_i leap
      exact ⟨by omega, by omega, fun _ => ⟨rfl, leap⟩⟩
    · exact ⟨by omega, by omega, by omega⟩
  · have turn := daysBeforeMonth_succ d.month (by omega) (by omega) february
    have index : (d.month + 9) % 12 + 1 = (d.month % 12 + 10) % 12 := by omega
    have early : daysBeforeMonth ((d.month + 9) % 12 + 1) ≤ 337 := by
      simp only [daysBeforeMonth]
      omega
    rw [monthLength_of_ne_two _ february] at last
    rw [← index] at turn
    exact ⟨by omega, by omega, by omega⟩

/-- A date of the calendar is the date of some parts. -/
theorem IsReal.exists_parts {d : Date} (h : d.IsReal) : ∃ (cycle : Int) (p : Parts),
    d = p.date cycle ∧ d.toDays = cycle * 146097 + p.day - 719468 := by
  obtain ⟨within, long, last⟩ := h.dayOfYear_le
  obtain ⟨year, month, day⟩ := d
  obtain ⟨month₁, month₁₂, day₁, -⟩ := h
  simp only [isLeap, Bool.and_eq_true, Bool.or_eq_true, decide_eq_true_eq] at month₁ month₁₂ day₁ within long last
  rw [toDays_eq]
  dsimp only
  obtain ⟨m, hm, months⟩ : ∃ m, (month + 9) % 12 = m ∧
      (month ≤ 2 ∧ m = month + 9 ∨ 3 ≤ month ∧ month = m + 3) := ⟨_, rfl, by omega⟩
  rw [hm] at within long last ⊢
  obtain ⟨days, hd⟩ : ∃ days, daysBeforeMonth m + day = days + 1 := ⟨daysBeforeMonth m + day - 1, by omega⟩
  obtain ⟨start, hs⟩ : ∃ start : Int, start = if month ≤ 2 then year - 1 else year := ⟨_, rfl⟩
  obtain ⟨y, hy⟩ : ∃ y : Nat, (y : Int) = start % 400 := ⟨(start % 400).toNat, by omega⟩
  have index : (5 * days + 2) / 153 = m := by
    simp only [daysBeforeMonth] at within hd
    omega
  have leap : days = 365 → y % 4 = 3 ∧ (y % 100 / 4 = 24 → y / 100 = 3) := by
    intro full
    obtain ⟨rfl, years⟩ := last (by omega)
    rw [if_pos (show 2 ≤ 2 by decide)] at hs
    omega
  refine ⟨start / 400, ⟨y / 100, y % 100 / 4, y % 4, days, by omega, by omega, by omega, by omega, leap⟩, ?_, ?_⟩
  · simp only [Parts.date, Parts.month, Parts.year, index, Date.mk.injEq]
    have years : 100 * (y / 100) + 4 * (y % 100 / 4) + y % 4 = y := by omega
    rw [years]
    rcases months with ⟨early, rfl⟩ | ⟨late, rfl⟩
    · rw [if_pos early] at hs
      rw [if_neg (by omega), if_neg (by omega)]
      omega
    · rw [if_neg (by omega)] at hs
      rw [if_pos (by omega), if_pos (by omega)]
      omega
  · rw [← hs, hd]
    simp only [daysBeforeYear, Parts.day]
    omega

/-- The dates of the calendar have different days. -/
theorem IsReal.ofDays_toDays {d : Date} (h : d.IsReal) : ofDays d.toDays = d := by
  obtain ⟨cycle, p, rfl, days⟩ := h.exists_parts
  have lt : p.day < 146097 := by
    obtain ⟨c, g, y, d, hc, hg, hy, hd, leap⟩ := p
    simp only [Parts.day]
    omega
  have first : (p.day : Int) = (cycle * 146097 + p.day - 719468 + 719468) % 146097 := by omega
  have cycles : (cycle * 146097 + p.day - 719468 + 719468) / 146097 = cycle := by omega
  rw [days]
  simp only [ofDays, cycles, ← first, Int.toNat_natCast, p.year_eq, p.dayOfYear_eq]
  rfl

/-- Every day falls on its date. -/
theorem fallsOn_ofDays (days : Int) : FallsOn (ofDays days) days := by
  have step : ∀ n : Int, (ofDays n).next = ofDays (n + 1) := by
    intro n
    have real := isReal_ofDays n
    rw [← real.next.ofDays_toDays, real.toDays_next, toDays_ofDays]
  have epoch : ofDays 0 = ⟨1970, 1, 1⟩ := by decide
  obtain ⟨n, rfl | rfl⟩ := days.eq_nat_or_neg
  · induction n with
    | zero =>
      rw [Int.natCast_zero, epoch]
      exact .start
    | succ n ih =>
      rw [Int.natCast_succ, ← step]
      exact .forth ih
  · induction n with
    | zero =>
      rw [Int.natCast_zero, Int.neg_zero, epoch]
      exact .start
    | succ n ih =>
      rw [show -((n + 1 : Nat) : Int) = -(n : Int) - 1 by omega]
      refine .back (isReal_ofDays _) ?_
      rw [step, Int.sub_add_cancel]
      exact ih

theorem FallsOn.isReal {d : Date} {days : Int} (h : FallsOn d days) : d.IsReal := by
  induction h with
  | start => decide
  | forth _ ih => exact ih.next
  | back real _ _ => exact real

/-- A date stands at one place of the calendar. -/
theorem FallsOn.toDays_eq {d : Date} {days : Int} (h : FallsOn d days) : d.toDays = days := by
  induction h with
  | start => decide
  | forth h ih => rw [h.isReal.toDays_next, ih]
  | back real _ ih => rw [← ih, real.toDays_next, Int.add_sub_cancel]

/-! ## Years -/

theorem daysBeforeYear_mono {year year' : Int} (h : year ≤ year') :
    daysBeforeYear year ≤ daysBeforeYear year' := by
  simp only [daysBeforeYear]
  omega

/-- A year begins between the March before and the March within it. -/
theorem toDays_newYear (year : Int) : toDays ⟨year, 1, 1⟩ = daysBeforeYear (year - 1) + 306 - 719468 := by
  have january : daysBeforeMonth ((1 + 9) % 12) = 306 := rfl
  rw [toDays_eq]
  dsimp only
  rw [january, if_pos (by decide)]
  omega

/-- A date of a year lies behind the year's first day, and before the first day of the next year. -/
theorem IsReal.toDays_bounds {d : Date} (h : d.IsReal) :
    toDays ⟨d.year, 1, 1⟩ ≤ d.toDays ∧ d.toDays < toDays ⟨d.year + 1, 1, 1⟩ := by
  obtain ⟨before, long, -⟩ := h.dayOfYear_le
  obtain ⟨year, month, day⟩ := d
  obtain ⟨month₁, month₁₂, day₁, -⟩ := h
  have turn := daysBeforeYear_succ year
  have february : 28 ≤ monthLength year 2 := by
    unfold monthLength
    split <;> split <;> decide
  rw [toDays_newYear, toDays_newYear, toDays_eq]
  dsimp only at month₁ month₁₂ day₁ before long ⊢
  rw [Int.add_sub_cancel]
  by_cases early : month ≤ 2
  · have index : (month + 9) % 12 = month + 9 := by omega
    rw [if_pos early]
    rw [index] at long ⊢
    simp only [daysBeforeMonth] at long ⊢
    omega
  · have index : (month + 9) % 12 = month - 3 := by omega
    rw [if_neg early]
    rw [index] at before ⊢
    simp only [daysBeforeMonth] at before ⊢
    omega

/-- Of two years the earlier one has the earlier days. -/
theorem IsReal.year_lt_iff {d : Date} (h : d.IsReal) (year : Int) :
    d.year < year ↔ d.toDays < toDays ⟨year, 1, 1⟩ := by
  obtain ⟨start, stop⟩ := h.toDays_bounds
  rw [toDays_newYear] at start stop ⊢
  constructor
  · intro earlier
    have mono := daysBeforeYear_mono (show d.year + 1 - 1 ≤ year - 1 by omega)
    omega
  · intro before
    refine Int.not_le.1 fun later => ?_
    have mono := daysBeforeYear_mono (show year - 1 ≤ d.year - 1 by omega)
    omega

end Date

end CommitGate

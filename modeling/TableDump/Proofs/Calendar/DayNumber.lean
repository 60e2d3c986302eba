import TableDump.Calendar.Date

/-! # Dates by their numbers

Days and microseconds are counted without gaps or repetitions.

* `Date.Valid`, `Clock.Valid`, `Moment.Valid`: the months that there are, the days that they have, the readings of a
  clock. Years are any numbers.
* A year has the days from `daysBeforeYear` on up to the next year (`yearOf_eq_iff`), and each of its months likewise.
* Counting days and finding the date of a count are inverse to each other (`ofDayNumber_dayNumber`,
  `dayNumber_ofDayNumber`), and so are counting microseconds and finding the moment (`ofMicros_micros`, `micros_ofMicros`).
* `firstDay` and `lastDay` are the ends of the years that have texts.
-/

namespace TableDump.Calendar
set_option autoImplicit false

/-! ## Years -/

def leapDays (year : Int) : Nat := if isLeap year then 1 else 0

theorem leapDays_le (year : Int) : leapDays year ≤ 1 := by
  unfold leapDays
  split <;> omega

theorem daysBeforeYear_succ (year : Int) : daysBeforeYear (year + 1) = daysBeforeYear year + 365 + leapDays year := by
  unfold daysBeforeYear leapDays isLeap
  simp only [Bool.and_eq_true, Bool.or_eq_true, beq_iff_eq, bne_iff_ne, ne_eq]
  split <;> omega

theorem daysBeforeYear_mono {early late : Int} (h : early ≤ late) : daysBeforeYear early ≤ daysBeforeYear late := by
  obtain ⟨n, rfl⟩ := Int.le.dest h
  induction n with
  | zero => simp
  | succ n ih =>
    have hnext := daysBeforeYear_succ (early + n)
    have hsofar := ih (Int.le_add_of_nonneg_right (Int.natCast_nonneg n))
    rw [Int.natCast_succ, ← Int.add_assoc]
    omega

/-- Of the guess from the mean length of a year and its two neighbours, one is right. -/
theorem daysBeforeYear_yearOf (n : Int) :
    daysBeforeYear (Date.yearOf n) < n ∧ n ≤ daysBeforeYear (Date.yearOf n + 1) := by
  have hlow : daysBeforeYear ((n - 1) * 400 / 146097) < n := by
    simp only [daysBeforeYear]
    omega
  have hhigh : n ≤ daysBeforeYear ((n - 1) * 400 / 146097 + 1 + 1 + 1) := by
    simp only [daysBeforeYear]
    omega
  unfold Date.yearOf
  simp only
  split
  · next hafter => exact ⟨hafter, hhigh⟩
  · next hafter =>
    split
    · next hbefore => exact ⟨by rwa [Int.add_sub_cancel], by rwa [Int.add_sub_cancel]⟩
    · next hbefore => exact ⟨by omega, by omega⟩

theorem yearOf_eq_iff {n year : Int} : Date.yearOf n = year ↔ daysBeforeYear year < n ∧ n ≤ daysBeforeYear (year + 1) := by
  obtain ⟨hlow, hhigh⟩ := daysBeforeYear_yearOf n
  constructor
  · rintro rfl
    exact ⟨hlow, hhigh⟩
  · rintro ⟨hlow', hhigh'⟩
    rcases Int.lt_trichotomy (Date.yearOf n) year with hless | heq | hless
    · have := daysBeforeYear_mono (show Date.yearOf n + 1 ≤ year from hless)
      omega
    · exact heq
    · have := daysBeforeYear_mono (show year + 1 ≤ Date.yearOf n from hless)
      omega

/-! ## Months -/

theorem daysBeforeMonth_succ (year : Int) {month : Nat} (h : 1 ≤ month) :
    daysBeforeMonth year (month + 1) = daysBeforeMonth year month + daysInMonth year month := by
  obtain ⟨k, rfl⟩ := Nat.exists_eq_add_of_le' h
  rfl

theorem daysInMonth_le (year : Int) (month : Nat) : daysInMonth year month ≤ 31 := by
  unfold daysInMonth
  split
  · split <;> omega
  · split <;> omega

theorem daysBeforeMonth_mono (year : Int) {early late : Nat} (h : early ≤ late) :
    daysBeforeMonth year early ≤ daysBeforeMonth year late := by
  induction h with
  | refl => exact Nat.le_refl _
  | @step month hmonth ih =>
    refine Nat.le_trans ih ?_
    cases month with
    | zero => exact Nat.le_refl _
    | succ month =>
      rw [daysBeforeMonth_succ year (Nat.le_add_left 1 month)]
      exact Nat.le_add_right _ _

/-- The days before each month of a year, the next year among them. -/
theorem daysBeforeMonth_values (year : Int) : daysBeforeMonth year 3 = 59 + leapDays year ∧
    daysBeforeMonth year 10 = 273 + leapDays year ∧ daysBeforeMonth year 13 = 365 + leapDays year := by
  unfold leapDays
  cases hleap : isLeap year <;> simp [daysBeforeMonth, daysInMonth, hleap]

theorem daysBeforeYear_succ_eq (year : Int) :
    daysBeforeYear (year + 1) = daysBeforeYear year + daysBeforeMonth year 13 := by
  rw [daysBeforeYear_succ, (daysBeforeMonth_values year).2.2]
  omega

theorem monthOf_spec {year : Int} {n fuel : Nat} (hpos : 0 < n) (hn : n ≤ daysBeforeMonth year (fuel + 1)) :
    1 ≤ Date.monthOf year n fuel ∧ Date.monthOf year n fuel ≤ fuel ∧
      daysBeforeMonth year (Date.monthOf year n fuel) < n ∧ n ≤ daysBeforeMonth year (Date.monthOf year n fuel + 1) := by
  induction fuel with
  | zero => exact absurd hn (Nat.not_le_of_lt hpos)
  | succ month ih =>
    rw [Date.monthOf]
    split
    · next hbefore => exact ⟨Nat.le_add_left 1 month, Nat.le_refl _, hbefore, hn⟩
    · next hbefore =>
      obtain ⟨hone, hmonth, hday⟩ := ih (Nat.le_of_not_lt hbefore)
      exact ⟨hone, Nat.le_succ_of_le hmonth, hday⟩

theorem monthOf_eq {year : Int} {n month : Nat} (hmonth : month ≤ 12) (hlow : daysBeforeMonth year month < n)
    (hhigh : n ≤ daysBeforeMonth year (month + 1)) : Date.monthOf year n 12 = month := by
  have hyear := daysBeforeMonth_mono year (show month + 1 ≤ 13 by omega)
  obtain ⟨-, -, hlow', hhigh'⟩ := monthOf_spec (by omega) (Nat.le_trans hhigh hyear)
  rcases Nat.lt_trichotomy (Date.monthOf year n 12) month with hless | heq | hless
  · have := daysBeforeMonth_mono year (show Date.monthOf year n 12 + 1 ≤ month from hless)
    omega
  · exact heq
  · have := daysBeforeMonth_mono year (show month + 1 ≤ Date.monthOf year n 12 from hless)
    omega

/-! ## Dates -/

namespace Date

structure Valid (d : Date) : Prop where
  month_pos : 1 ≤ d.month
  month_le : d.month ≤ 12
  day_pos : 1 ≤ d.day
  day_le : d.day ≤ daysInMonth d.year d.month

theorem valid_iff {d : Date} :
    d.Valid ↔ 1 ≤ d.month ∧ d.month ≤ 12 ∧ 1 ≤ d.day ∧ d.day ≤ daysInMonth d.year d.month :=
  ⟨fun h => ⟨h.month_pos, h.month_le, h.day_pos, h.day_le⟩, fun ⟨h1, h2, h3, h4⟩ => ⟨h1, h2, h3, h4⟩⟩

instance (d : Date) : Decidable d.Valid := decidable_of_iff _ valid_iff.symm

variable {d : Date}

/-- The number of a day within its year. -/
theorem Valid.dayOfYear_le (h : d.Valid) : daysBeforeMonth d.year d.month + d.day ≤ daysBeforeMonth d.year (d.month + 1) := by
  rw [daysBeforeMonth_succ d.year h.month_pos]
  exact Nat.add_le_add_left h.day_le _

theorem Valid.yearOf_dayNumber (h : d.Valid) : yearOf d.dayNumber = d.year := by
  have hmonth := h.dayOfYear_le
  have hyear := daysBeforeMonth_mono d.year (show d.month + 1 ≤ 13 from Nat.succ_le_succ h.month_le)
  have hday := h.day_pos
  rw [yearOf_eq_iff, daysBeforeYear_succ_eq, dayNumber]
  omega

theorem ofDayNumber_dayNumber (h : d.Valid) : ofDayNumber d.dayNumber = d := by
  have hrest : (d.dayNumber - daysBeforeYear d.year).toNat = daysBeforeMonth d.year d.month + d.day := by
    rw [dayNumber]
    omega
  have hmonth : monthOf d.year (daysBeforeMonth d.year d.month + d.day) 12 = d.month :=
    monthOf_eq h.month_le (Nat.lt_add_of_pos_right h.day_pos) h.dayOfYear_le
  rw [ofDayNumber]
  simp only [h.yearOf_dayNumber, hrest, hmonth, Nat.add_sub_cancel_left]

theorem ofDayNumber_spec (n : Int) : (ofDayNumber n).Valid ∧ (ofDayNumber n).dayNumber = n := by
  obtain ⟨hlow, hhigh⟩ := daysBeforeYear_yearOf n
  rw [daysBeforeYear_succ_eq] at hhigh
  obtain ⟨rest, hrest⟩ := Int.eq_ofNat_of_zero_le (show 0 ≤ n - daysBeforeYear (yearOf n) by omega)
  have hyear : rest ≤ daysBeforeMonth (yearOf n) 13 := by omega
  obtain ⟨hone, htwelve, hafter, hbefore⟩ := monthOf_spec (show 0 < rest by omega) hyear
  have hlength := daysBeforeMonth_succ (yearOf n) hone
  simp only [ofDayNumber, hrest, Int.toNat_natCast]
  refine ⟨⟨hone, htwelve, Nat.sub_pos_of_lt hafter, ?_⟩, ?_⟩
  · exact Nat.sub_le_of_le_add (Nat.le_trans hbefore (Nat.le_of_eq (hlength.trans (Nat.add_comm _ _))))
  · simp only [dayNumber]
    omega

theorem valid_ofDayNumber (n : Int) : (ofDayNumber n).Valid := (ofDayNumber_spec n).1

@[simp] theorem dayNumber_ofDayNumber (n : Int) : (ofDayNumber n).dayNumber = n := (ofDayNumber_spec n).2

theorem Valid.eq_of_dayNumber_eq {d' : Date} (h : d.Valid) (h' : d'.Valid) (heq : d.dayNumber = d'.dayNumber) : d = d' := by
  rw [← ofDayNumber_dayNumber h, heq, ofDayNumber_dayNumber h']

def firstDay : Date := ⟨firstYear, 1, 1⟩

def lastDay : Date := ⟨lastYear, 12, 31⟩

theorem Valid.firstDay_lt (h : d.Valid) (hyear : firstYear ≤ d.year) (hne : d ≠ firstDay) :
    daysBeforeYear firstYear + 2 ≤ d.dayNumber := by
  have hbegun := (yearOf_eq_iff.1 h.yearOf_dayNumber).1
  have hyears := daysBeforeYear_mono hyear
  have hnumber : firstDay.dayNumber = daysBeforeYear firstYear + 1 := by decide
  have hother := mt (h.eq_of_dayNumber_eq (by decide)) hne
  omega

theorem Valid.lt_lastDay (h : d.Valid) (hyear : d.year ≤ lastYear) (hne : d ≠ lastDay) :
    d.dayNumber + 1 ≤ daysBeforeYear (lastYear + 1) := by
  have hended := (yearOf_eq_iff.1 h.yearOf_dayNumber).2
  have hyears := daysBeforeYear_mono (show d.year + 1 ≤ lastYear + 1 from Int.add_le_add_right hyear 1)
  have hnumber : lastDay.dayNumber = daysBeforeYear (lastYear + 1) := by decide
  have hother := mt (h.eq_of_dayNumber_eq (by decide)) hne
  omega

end Date

/-! ## Clocks -/

namespace Clock

structure Valid (c : Clock) : Prop where
  hour_le : c.hour ≤ 23
  minute_le : c.minute ≤ 59
  second_le : c.second ≤ 59
  micro_le : c.micro ≤ 999999

theorem valid_iff {c : Clock} : c.Valid ↔ c.hour ≤ 23 ∧ c.minute ≤ 59 ∧ c.second ≤ 59 ∧ c.micro ≤ 999999 :=
  ⟨fun h => ⟨h.hour_le, h.minute_le, h.second_le, h.micro_le⟩, fun ⟨h1, h2, h3, h4⟩ => ⟨h1, h2, h3, h4⟩⟩

instance (c : Clock) : Decidable c.Valid := decidable_of_iff _ valid_iff.symm

theorem valid_ofMicros {n : Nat} (h : (n : Int) < microsPerDay) : (ofMicros n).Valid := by
  unfold microsPerDay at h
  exact ⟨by simp only [ofMicros]; omega, by simp only [ofMicros]; omega, by simp only [ofMicros]; omega,
    by simp only [ofMicros]; omega⟩

theorem micros_ofMicros (n : Nat) : (ofMicros n).micros = n := by
  simp only [micros, seconds, ofMicros, microsPerSecond]
  omega

variable {c : Clock}

theorem micros_nonneg (c : Clock) : 0 ≤ c.micros := by
  simp only [micros, seconds, microsPerSecond]
  omega

theorem Valid.micros_lt (h : c.Valid) : c.micros < microsPerDay := by
  obtain ⟨hhour, hminute, hsecond, hmicro⟩ := h
  simp only [micros, seconds, microsPerSecond, microsPerDay]
  omega

theorem Valid.ofMicros_micros (h : c.Valid) : ofMicros c.micros.toNat = c := by
  obtain ⟨hhour, hminute, hsecond, hmicro⟩ := h
  have hcount : c.micros.toNat = c.hour * 3600000000 + c.minute * 60000000 + c.second * 1000000 + c.micro := by
    simp only [micros, seconds, microsPerSecond]
    omega
  rw [hcount, ofMicros]
  obtain ⟨hour, minute, second, micro⟩ := c
  simp only at hhour hminute hsecond hmicro ⊢
  rw [mk.injEq]
  omega

end Clock

/-! ## Moments -/

namespace Moment

structure Valid (m : Moment) : Prop where
  date : m.date.Valid
  clock : m.clock.Valid

instance (m : Moment) : Decidable m.Valid :=
  decidable_of_iff (m.date.Valid ∧ m.clock.Valid) ⟨fun ⟨h1, h2⟩ => ⟨h1, h2⟩, fun h => ⟨h.date, h.clock⟩⟩

theorem valid_ofMicros (n : Int) : (ofMicros n).Valid where
  date := Date.valid_ofDayNumber _
  clock := Clock.valid_ofMicros (by unfold microsPerDay; omega)

theorem micros_ofMicros (n : Int) : (ofMicros n).micros = n := by
  simp only [micros, ofMicros, Date.dayNumber_ofDayNumber, Clock.micros_ofMicros]
  unfold microsPerDay
  omega

theorem Valid.ofMicros_micros {m : Moment} (h : m.Valid) : ofMicros m.micros = m := by
  have hlow := m.clock.micros_nonneg
  have hhigh := h.clock.micros_lt
  have hday : m.micros / microsPerDay + 1 = m.date.dayNumber := by
    simp only [micros]
    unfold microsPerDay at hhigh ⊢
    omega
  have hclock : m.micros % microsPerDay = m.clock.micros := by
    simp only [micros]
    unfold microsPerDay at hhigh ⊢
    omega
  rw [ofMicros, hday, hclock, Date.ofDayNumber_dayNumber h.date, h.clock.ofMicros_micros]

/-- The whole seconds of a moment. -/
theorem Valid.micros_div {m : Moment} (h : m.Valid) : m.micros / microsPerSecond = m.seconds := by
  have hmicro := h.clock.micro_le
  simp only [micros, seconds, Clock.micros]
  unfold microsPerSecond microsPerDay secondsPerDay
  omega

/-- The seconds of a moment lie in its day. -/
theorem Valid.seconds_bounds {m : Moment} (h : m.Valid) : (m.date.dayNumber - 1) * secondsPerDay ≤ m.seconds ∧
    m.seconds < m.date.dayNumber * secondsPerDay := by
  obtain ⟨hhour, hminute, hsecond, -⟩ := h.clock
  simp only [seconds, Clock.seconds]
  unfold secondsPerDay
  omega

end Moment
end TableDump.Calendar

import TableDump.Text.Digits

/-! # Dates and clock readings

Days of the Gregorian calendar, carried on before its beginning and beyond year 9999.

* `Date.dayNumber` counts from 1 for 0001-01-01, `Date.ofDayNumber` finds the date again;
* `Moment` is a date with a clock reading, `Moment.micros` counts its microseconds from
  0001-01-01T00:00 and `Moment.ofMicros` goes back;
* `Date.text`, `Clock.text` and `Moment.isoText` write them.
-/

namespace TableDump.Calendar
open TableDump.Text
set_option autoImplicit false

structure Date where
  year : Int
  month : Nat
  day : Nat
deriving DecidableEq, Repr

structure Clock where
  hour : Nat := 0
  minute : Nat := 0
  second : Nat := 0
  micro : Nat := 0
deriving DecidableEq, Repr

structure Moment where
  date : Date
  clock : Clock
deriving DecidableEq, Repr

/-! ## Years and months -/

def firstYear : Int := 1

def lastYear : Int := 9999

def isLeap (year : Int) : Bool := year % 4 == 0 && (year % 100 != 0 || year % 400 == 0)

def daysInMonth (year : Int) (month : Nat) : Nat :=
  if month = 2 then (if isLeap year then 29 else 28)
  else if month = 4 ∨ month = 6 ∨ month = 9 ∨ month = 11 then 30 else 31

def daysBeforeYear (year : Int) : Int :=
  let past := year - 1
  past * 365 + past / 4 - past / 100 + past / 400

def daysBeforeMonth (year : Int) : Nat → Nat
  | 0 => 0
  | 1 => 0
  | month + 2 => daysBeforeMonth year (month + 1) + daysInMonth year (month + 1)

/-! ## Counting days -/

namespace Date

def dayNumber (d : Date) : Int := daysBeforeYear d.year + daysBeforeMonth d.year d.month + d.day

/-- The year of a day number: the guess from the mean length of a year is at most one off. -/
def yearOf (n : Int) : Int :=
  let guess := (n - 1) * 400 / 146097 + 1
  if daysBeforeYear (guess + 1) < n then guess + 1
  else if n ≤ daysBeforeYear guess then guess - 1
  else guess

/-- The last month of `year` at or below `fuel` that begins before its day `n`. -/
def monthOf (year : Int) (n : Nat) : Nat → Nat
  | 0 => 1
  | month + 1 => if daysBeforeMonth year (month + 1) < n then month + 1 else monthOf year n month

def ofDayNumber (n : Int) : Date :=
  let year := yearOf n
  let rest := (n - daysBeforeYear year).toNat
  let month := monthOf year rest 12
  ⟨year, month, rest - daysBeforeMonth year month⟩

/-- The last Sunday of a month of 31 days. -/
def lastSunday (year : Int) (month : Nat) : Int :=
  let last := dayNumber ⟨year, month, 31⟩
  last - last % 7

end Date

/-! ## Microseconds -/

def microsPerSecond : Int := 1000000

def secondsPerDay : Int := 86400

def microsPerDay : Int := 86400000000

namespace Clock

def seconds (c : Clock) : Int := c.hour * 3600 + c.minute * 60 + c.second

def micros (c : Clock) : Int := c.seconds * microsPerSecond + c.micro

/-- The clock reading so many microseconds after midnight. -/
def ofMicros (n : Nat) : Clock :=
  ⟨n / 3600000000, n / 60000000 % 60, n / 1000000 % 60, n % 1000000⟩

end Clock

namespace Moment

def micros (m : Moment) : Int := (m.date.dayNumber - 1) * microsPerDay + m.clock.micros

/-- Whole seconds from 0001-01-01T00:00. -/
def seconds (m : Moment) : Int := (m.date.dayNumber - 1) * secondsPerDay + m.clock.seconds

def ofMicros (n : Int) : Moment :=
  ⟨Date.ofDayNumber (n / microsPerDay + 1), Clock.ofMicros (n % microsPerDay).toNat⟩

end Moment

/-! ## Text -/

def microText (micro : Nat) : String := if micro = 0 then "" else "." ++ zeroPadded 6 micro

def Date.text (d : Date) : String :=
  zeroPadded 4 d.year.toNat ++ "-" ++ zeroPadded 2 d.month ++ "-" ++ zeroPadded 2 d.day

def Clock.text (c : Clock) : String :=
  zeroPadded 2 c.hour ++ ":" ++ zeroPadded 2 c.minute ++ ":" ++ zeroPadded 2 c.second ++ microText c.micro

def Moment.isoText (m : Moment) : String := m.date.text ++ "T" ++ m.clock.text

/-- An offset from UTC in microseconds: hours and minutes, and what is left only when it is not zero. -/
def offsetText (offset : Int) : String :=
  let c := Clock.ofMicros offset.natAbs
  (if offset < 0 then "-" else "+") ++ zeroPadded 2 c.hour ++ ":" ++ zeroPadded 2 c.minute ++
    (if c.second = 0 ∧ c.micro = 0 then "" else ":" ++ zeroPadded 2 c.second ++ microText c.micro)

end TableDump.Calendar

import TableDump.Calendar.Date
import TableDump.Fault

/-! # Reading ISO 8601

* a date is `YYYY-MM-DD` or `YYYYMMDD`;
* a clock reading is `HH`, `HH:MM` or `HH:MM:SS`, or the same without colons, with a fraction of any
  number of digits, of which six count;
* a zone is `Z` or a sign and a clock reading;
* a date and a clock reading stand together with any one character between them.

The form is checked first, then the offset, then the range of each field.
-/

namespace TableDump.Calendar
open TableDump.Text
set_option autoImplicit false

/-! ## Forms -/

/-- The number in exactly `count` digits, and the rest. -/
def fixedDigits (value : Nat) : Nat → List Char → Option (Nat × List Char)
  | 0, rest => some (value, rest)
  | _ + 1, [] => none
  | count + 1, c :: rest => (digitValue? c).bind fun d => fixedDigits (value * 10 + d) count rest

def dateForm (cs : List Char) : Option (Date × List Char) := do
  let (year, rest) ← fixedDigits 0 4 cs
  match rest with
  | '-' :: rest =>
    let (month, rest) ← fixedDigits 0 2 rest
    match rest with
    | '-' :: rest =>
      let (day, rest) ← fixedDigits 0 2 rest
      return (⟨year, month, day⟩, rest)
    | _ => none
  | rest =>
    let (month, rest) ← fixedDigits 0 2 rest
    let (day, rest) ← fixedDigits 0 2 rest
    return (⟨year, month, day⟩, rest)

/-- The pairs of digits of a clock reading, at most `count`, and the fraction after them. -/
def clockPairs (colons : Bool) : Nat → List Char → Option (List Nat × List Char)
  | 0, rest => some ([], rest)
  | count + 1, cs => do
    let (value, rest) ← fixedDigits 0 2 cs
    match rest with
    | [] => return ([value], [])
    | c :: after =>
      if c = '.' ∨ c = ',' then return ([value], rest)
      else if count = 0 then none
      else if colons then
        if c = ':' then (clockPairs colons count after).map fun (values, rest) => (value :: values, rest)
        else none
      else (clockPairs colons count rest).map fun (values, rest) => (value :: values, rest)

/-- A fraction of a second in microseconds. -/
def microForm : List Char → Option Nat
  | [] => some 0
  | _ :: digits =>
    if digits.isEmpty then none
    else (digits.mapM digitValue?).map fun values =>
      ((values ++ List.replicate 6 0).take 6).foldl (fun total d => total * 10 + d) 0

def clockForm (cs : List Char) : Option Clock := do
  let (values, fraction) ← clockPairs ((cs.drop 2).head? == some ':') 3 cs
  let micro ← microForm fraction
  return ⟨values.getD 0 0, values.getD 1 0, values.getD 2 0, micro⟩

/-- An offset from UTC in microseconds, from the sign or `Z` on. -/
def zoneForm : List Char → Option (Option Int)
  | [] => some none
  | ['Z'] => some (some 0)
  | '+' :: cs => (clockForm cs).map fun c => some c.micros
  | '-' :: cs => (clockForm cs).map fun c => some (-c.micros)
  | _ => none

def startsZone (c : Char) : Bool := c = '+' || c = '-' || c = 'Z'

def zonedClockForm (cs : List Char) : Option (Clock × Option Int) := do
  let clock ← clockForm (cs.takeWhile fun c => !startsZone c)
  let offset ← zoneForm (cs.dropWhile fun c => !startsZone c)
  return (clock, offset)

/-! ## Ranges -/

def Date.check (d : Date) : Except Fault Date :=
  if d.year < firstYear ∨ lastYear < d.year then .error (.yearRange d.year)
  else if d.month < 1 ∨ 12 < d.month then .error (.fieldRange "month" 1 12)
  else if d.day < 1 ∨ daysInMonth d.year d.month < d.day then .error .dayRange
  else .ok d

def Clock.check (c : Clock) : Except Fault Clock :=
  if 23 < c.hour then .error (.fieldRange "hour" 0 23)
  else if 59 < c.minute then .error (.fieldRange "minute" 0 59)
  else if 59 < c.second then .error (.fieldRange "second" 0 59)
  else .ok c

/-- A span of microseconds as its days, seconds and microseconds that are not zero. -/
def spanText (span : Int) : String :=
  let days := span / microsPerDay
  let seconds := span % microsPerDay / microsPerSecond
  let micros := span % microsPerSecond
  let parts := [("days", days), ("seconds", seconds), ("microseconds", micros)].filter (·.2 ≠ 0)
  let shown := parts.map fun (name, n) => name ++ "=" ++ toString n
  "datetime.timedelta(" ++ (if shown.isEmpty then "0" else ", ".intercalate shown) ++ ")"

def checkOffset : Option Int → Except Fault (Option Int)
  | none => .ok none
  | some offset =>
    if offset ≤ -microsPerDay ∨ microsPerDay ≤ offset then .error (.offsetRange (spanText offset))
    else .ok (some offset)

/-! ## Readers -/

def readDate (s : String) : Except Fault Date :=
  match dateForm s.toList with
  | some (d, []) => d.check
  | _ => .error (.invalidIso s)

def readClock (s : String) : Except Fault (Clock × Option Int) :=
  let cs := s.toList
  match zonedClockForm (if cs.head? = some 'T' then cs.drop 1 else cs) with
  | some (c, offset) => do
    let offset ← checkOffset offset
    return (← c.check, offset)
  | none => .error (.invalidIso s)

def readMoment (s : String) : Except Fault (Moment × Option Int) :=
  match dateForm s.toList with
  | some (d, []) => d.check.map fun d => (⟨d, {}⟩, none)
  | some (d, _ :: rest) => match zonedClockForm rest with
    | some (c, offset) => do
      let offset ← checkOffset offset
      let d ← d.check
      let c ← c.check
      return (⟨d, c⟩, offset)
    | none => .error (.invalidIso s)
  | none => .error (.invalidIso s)

end TableDump.Calendar

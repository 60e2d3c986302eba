import TableDump.Calendar.Iso

/-! # The local time zone

* `Zone` has a standard offset and may keep summer time: one hour more from the last Sunday of March,
  02:00 by the standard clock, to the last Sunday of October, 03:00 by the summer clock.
* `Zone.offsetAt` is the offset in force at an instant.
* `Zone.instantOf` finds the instant of a wall clock reading. Of two instants it takes the earlier, or
  the later on the second pass (`fold`); in the skipped hour it takes the offset of the other side.
* `Zone.localText` writes a moment as the local clock shows it, with the offset in force.

Instants and readings are counted from 0001-01-01T00:00, in seconds or microseconds.
-/

namespace TableDump.Calendar
set_option autoImplicit false

/-- A standard offset in seconds east of UTC, with or without summer time. -/
structure Zone where
  offset : Int := 0
  summer : Bool := false
deriving DecidableEq, Repr

def summerSaving : Int := 3600

namespace Zone

/-! ## Offsets -/

/-- The instants between which a year has summer time. -/
def summerOf (z : Zone) (year : Int) : Int × Int :=
  ((Date.lastSunday year 3 - 1) * secondsPerDay + 7200 - z.offset,
    (Date.lastSunday year 10 - 1) * secondsPerDay + 10800 - (z.offset + summerSaving))

def offsetAt (z : Zone) (instant : Int) : Int :=
  if z.summer then
    let (start, stop) := z.summerOf (Date.yearOf ((instant + z.offset) / secondsPerDay + 1))
    if start ≤ instant ∧ instant < stop then z.offset + summerSaving else z.offset
  else z.offset

/-- The wall clock reading at an instant, refused outside the years that have dates. -/
def reading (z : Zone) (instant : Int) : Except Fault Int :=
  let shown := instant + z.offsetAt instant
  let year := Date.yearOf (shown / secondsPerDay + 1)
  if firstYear ≤ year ∧ year ≤ lastYear then .ok shown else .error (.yearRange year)

/-! ## From wall clock to instant -/

/-- The instant at which the wall clock shows `wall`. The offset `a` is the one in force when UTC shows
`wall`; a second offset is looked for a day away, or taken from the first try when that fails. -/
def instantOf (z : Zone) (wall : Int) (fold : Bool) : Except Fault Int := do
  let a := (← z.reading wall) - wall
  let first := wall - a
  let shown ← z.reading first
  if shown = wall then
    let other := if fold then first + secondsPerDay else first - secondsPerDay
    let b := (← z.reading other) - other
    if a = b then return first
    let second := wall - b
    return if (← z.reading second) = wall then second else first
  else
    let second := wall - (shown - first)
    if (← z.reading second) = wall then return second
    return if fold then min first second else max first second

/-! ## Local moments -/

/-- The moment `n` microseconds after 0001-01-01T00:00, refused outside the years that have dates. -/
def momentAt (n : Int) : Except Fault Moment :=
  let m := Moment.ofMicros n
  if firstYear ≤ m.date.year ∧ m.date.year ≤ lastYear then .ok m else .error .dateRange

/-- The offset in force at an instant, in microseconds. An offset of a day or more is refused. -/
def checkedOffset (z : Zone) (instant : Int) : Except Fault Int := do
  let offset := z.offsetAt instant * microsPerSecond
  discard (checkOffset (some offset))
  return offset

/-- An instant in microseconds as the local clock shows it, with the offset in force. -/
def localMoment (z : Zone) (instant : Int) : Except Fault (Moment × Int) := do
  discard (momentAt instant)
  let offset ← z.checkedOffset (instant / microsPerSecond)
  return (← momentAt (instant + offset), offset)

/-- The instant of a moment in microseconds, by its own offset or by the local clock. -/
def instantOfMoment (z : Zone) (m : Moment) (offset : Option Int) (fold : Bool) : Except Fault Int :=
  match offset with
  | some own => .ok (m.micros - own)
  | none => do
    let instant ← z.instantOf m.seconds fold
    return m.micros - (← z.checkedOffset instant)

def localText (z : Zone) (m : Moment) (offset : Option Int) (fold : Bool) : Except Fault String := do
  let instant ← z.instantOfMoment m offset fold
  let (shown, shownOffset) ← z.localMoment instant
  return shown.isoText ++ offsetText shownOffset

end Zone
end TableDump.Calendar

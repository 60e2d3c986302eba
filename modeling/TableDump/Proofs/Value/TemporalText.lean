import TableDump.Proofs.Calendar.IsoReading
import TableDump.Proofs.Value.EncodingFaults

/-! # The text of moments

What stands in the text of a moment, a date or a time.

* A moment with an offset of its own is written as the local clock shows its instant, with the offset in force there.
  The text reads back to the instant, so that it tells instants apart, and nothing else (`Value.encode_aware`).
* A moment without one keeps its fields and gets an offset that is in force at the instant found for it. The pass of the
  clock counts in the repeated hour, and only there but for the first and the last day that have texts
  (`Value.encode_naive`).
-/

namespace TableDump
open TableDump.Calendar
set_option autoImplicit false

/-! ## The text of an instant -/

namespace Calendar.Zone
variable {z : Zone} {instant : Int} {text : String}

/-- The text of an instant in microseconds. -/
def instantText (z : Zone) (instant : Int) : Except Fault String := do
  let (shown, offset) ← z.localMoment instant
  return shown.isoText ++ offsetText offset

theorem localText_eq (z : Zone) (m : Moment) (offset : Option Int) (fold : Bool) :
    z.localText m offset fold = z.instantOfMoment m offset fold >>= z.instantText := rfl

theorem localMoment_eq_ok {shown : Moment} {offset : Int} (h : z.localMoment instant = .ok (shown, offset)) :
    z.checkedOffset (instant / microsPerSecond) = .ok offset ∧ InYears (instant + offset) ∧
      shown = Moment.ofMicros (instant + offset) := by
  rw [localMoment] at h
  obtain ⟨_, -, h⟩ := outcome_bind_eq_ok_iff.1 h
  obtain ⟨inforce, hoffset, h⟩ := outcome_bind_eq_ok_iff.1 h
  obtain ⟨m, hm, h⟩ := outcome_bind_eq_ok_iff.1 h
  cases h
  exact ⟨hoffset, momentAt_eq_ok_iff.1 hm⟩

/-- The text of an instant reads back to what the local clock shows, by the offset in force. -/
theorem instantText_spec (h : z.instantText instant = .ok text) :
    ∃ offset, offset = z.offsetAt (instant / microsPerSecond) * microsPerSecond ∧
      text = (Moment.ofMicros (instant + offset)).isoText ++ offsetText offset ∧
      readMoment text = .ok (Moment.ofMicros (instant + offset), some offset) := by
  rw [instantText] at h
  obtain ⟨⟨shown, offset⟩, hshown, h⟩ := outcome_bind_eq_ok_iff.1 h
  have htext : shown.isoText ++ offsetText offset = text := Except.ok.inj h
  subst htext
  obtain ⟨hoffset, hyears, rfl⟩ := localMoment_eq_ok hshown
  obtain ⟨hinforce, hlow, hhigh⟩ := checkedOffset_eq_ok_iff.1 hoffset
  exact ⟨offset, hinforce, rfl, readMoment_text (Moment.valid_ofMicros _) hyears.1 hyears.2 hlow hhigh⟩

theorem inYears_of_instantText (h : z.instantText instant = .ok text) :
    InYears (instant + z.offsetAt (instant / microsPerSecond) * microsPerSecond) := by
  rw [instantText] at h
  obtain ⟨⟨shown, offset⟩, hshown, -⟩ := outcome_bind_eq_ok_iff.1 h
  obtain ⟨hoffset, hyears, -⟩ := localMoment_eq_ok hshown
  rwa [← (checkedOffset_eq_ok_iff.1 hoffset).1]

theorem instantText_injective {other : Int} (h : z.instantText instant = .ok text) (hother : z.instantText other = .ok text) :
    other = instant := by
  obtain ⟨offset, -, -, hread⟩ := instantText_spec h
  obtain ⟨offset', -, -, hread'⟩ := instantText_spec hother
  rw [hread, Except.ok.injEq, Prod.mk.injEq, Option.some.injEq] at hread'
  obtain ⟨hshown, rfl⟩ := hread'
  have := congrArg Moment.micros hshown
  rw [Moment.micros_ofMicros, Moment.micros_ofMicros] at this
  omega

/-! ## Moments without an offset -/

section
variable {m : Moment} {fold : Bool}

theorem instantOfMoment_eq_ok (h : z.instantOfMoment m none fold = .ok instant) :
    ∃ offset, z.checkedOffset (z.resolve m.seconds fold) = .ok offset ∧ instant = m.micros - offset := by
  rw [instantOfMoment] at h
  obtain ⟨found, hfound, h⟩ := outcome_bind_eq_ok_iff.1 h
  obtain rfl := instantOf_eq_ok hfound
  obtain ⟨offset, hoffset, h⟩ := outcome_bind_eq_ok_iff.1 h
  cases h
  exact ⟨offset, hoffset, rfl⟩

/-- Taken back by the offset in force there, a reading is at the instant found for it. -/
theorem micros_sub_div (hm : m.Valid) (hexists : ¬ z.Skips m.seconds) :
    (m.micros - z.offsetAt (z.resolve m.seconds fold) * microsPerSecond) / microsPerSecond = z.resolve m.seconds fold := by
  have hshown : z.Shows (z.resolve m.seconds fold) m.seconds := shows_resolve hexists
  have hseconds := hm.micros_div
  unfold Zone.Shows at hshown
  unfold microsPerSecond at hseconds ⊢
  omega

theorem localText_naive (hm : m.Valid) (hexists : ¬ z.Skips m.seconds) (h : z.localText m none fold = .ok text) :
    ∃ offset, z.checkedOffset (z.resolve m.seconds fold) = .ok offset ∧ z.instantText (m.micros - offset) = .ok text ∧
      text = m.isoText ++ offsetText offset ∧ firstYear ≤ m.date.year ∧ m.date.year ≤ lastYear := by
  rw [localText_eq] at h
  obtain ⟨instant, hinstant, htext⟩ := outcome_bind_eq_ok_iff.1 h
  obtain ⟨offset, hoffset, rfl⟩ := instantOfMoment_eq_ok hinstant
  obtain ⟨shownOffset, hshown, hwritten, -⟩ := instantText_spec htext
  have hsame : shownOffset = offset := by
    rw [hshown, (checkedOffset_eq_ok_iff.1 hoffset).1, micros_sub_div hm hexists]
  have hyears := inYears_of_instantText htext
  rw [← hshown, hsame, Int.sub_add_cancel, InYears, hm.ofMicros_micros] at hyears
  rw [hsame, Int.sub_add_cancel, hm.ofMicros_micros] at hwritten
  exact ⟨offset, hoffset, htext, hwritten, hyears⟩

/-- But for the first and the last day nothing is refused but the offset. -/
theorem localText_of_days {offset : Int} (hm : m.Valid) (hyears : firstYear ≤ m.date.year ∧ m.date.year ≤ lastYear)
    (hfirst : m.date ≠ Date.firstDay) (hlast : m.date ≠ Date.lastDay)
    (hoffset : z.checkedOffset (z.resolve m.seconds fold) = .ok offset) :
    z.localText m none fold = z.instantText (m.micros - offset) := by
  obtain ⟨hbegun, hended⟩ := hm.seconds_bounds
  obtain ⟨hinforce, hwest, heast⟩ := checkedOffset_eq_ok_iff.1 hoffset
  have hfirst' := hm.date.firstDay_lt hyears.1 hfirst
  have hlast' := hm.date.lt_lastDay hyears.2 hlast
  unfold secondsPerDay at hbegun hended
  unfold microsPerSecond at hinforce
  unfold microsPerDay at hwest heast
  have hfound : z.instantOf m.seconds fold = .ok (z.resolve m.seconds fold) := by
    refine instantOf_eq_resolve ?_ ?_ ?_ ?_
    all_goals
      unfold secondsPerDay
      omega
  have hinstant : z.instantOfMoment m none fold = .ok (m.micros - offset) :=
    outcome_bind_eq_ok_iff.2 ⟨_, hfound, outcome_bind_eq_ok_iff.2 ⟨offset, hoffset, rfl⟩⟩
  rw [localText_eq, hinstant]
  rfl

end

end Calendar.Zone

/-! ## Encoding -/

namespace Value
variable {e : Encoding} {column : Column} {v : Value} {m : Moment} {offset : Option Int} {fold : Bool}

/-- The texts of values of the calendar are those of their moments, whatever the session. -/
theorem encode_eq_text_iff {s : Session} {text : String} (htemporal : (column.type.kindFor v.kind).isTemporal = true)
    (hmoment : v.moment? = some (m, offset, fold)) :
    ((v.encode e column).result s).1 = .ok (some text) ↔ e.zone.localText m offset fold = .ok text := by
  have hboolean : column.type.kindFor v.kind ≠ .boolean := fun h => by
    rw [h] at htemporal
    cases htemporal
  have hbinary : (column.type.kindFor v.kind).isBinary ≠ true := fun h => by
    cases hkind : column.type.kindFor v.kind <;> rw [hkind] at h htemporal <;> cases h <;> cases htemporal
  rw [encode, encodeAs, if_neg hboolean, if_neg hbinary, if_pos htemporal, Run.result_lift, temporalText_eq, hmoment]
  simp only [outcome_map_eq_ok_iff, Option.some.injEq, exists_eq_right]

/-- A moment with an offset of its own is written by the offset that the local zone has at its instant, and the text reads
back to that instant. Any other such moment has the same text if and only if it is at the same instant. -/
theorem encode_aware {own : Int} {s : Session} {text : String} (htemporal : (column.type.kindFor v.kind).isTemporal = true)
    (hmoment : v.moment? = some (m, some own, fold)) (htext : ((v.encode e column).result s).1 = .ok (some text)) :
    (∃ shown offset, text = shown.isoText ++ offsetText offset ∧ readMoment text = .ok (shown, some offset) ∧
      shown.micros - offset = m.micros - own ∧
      offset = e.zone.offsetAt ((m.micros - own) / microsPerSecond) * microsPerSecond) ∧
    ∀ {column' : Column} {v' : Value} {m' : Moment} {own' : Int} {fold' : Bool} {s' : Session},
      (column'.type.kindFor v'.kind).isTemporal = true → v'.moment? = some (m', some own', fold') →
      (((v'.encode e column').result s').1 = .ok (some text) ↔ m'.micros - own' = m.micros - own) := by
  have hwritten : e.zone.instantText (m.micros - own) = .ok text := (encode_eq_text_iff htemporal hmoment).1 htext
  constructor
  · obtain ⟨offset, hoffset, hparts, hread⟩ := Zone.instantText_spec hwritten
    refine ⟨_, offset, hparts, hread, ?_, hoffset⟩
    rw [Moment.micros_ofMicros, Int.add_sub_cancel]
  · intro column' v' m' own' fold' s' htemporal' hmoment'
    rw [encode_eq_text_iff htemporal' hmoment']
    constructor
    · intro h
      exact Zone.instantText_injective hwritten h
    · intro h
      change e.zone.instantText (m'.micros - own') = .ok text
      rw [h, hwritten]

/-- Half past midnight by UTC, told one hour west, is in the first pass of the repeated hour one hour east. -/
theorem encode_aware_autumn : (((dateTime ⟨⟨2024, 10, 26⟩, ⟨23, 30, 0, 0⟩⟩ (some (-3600000000)) false).encode
    { zone := ⟨3600, true⟩ } ⟨"at", .untyped⟩).result {}).1 = .ok (some "2024-10-27T02:30:00+02:00") := by
  have hutc : (((dateTime ⟨⟨2024, 10, 27⟩, ⟨0, 30, 0, 0⟩⟩ (some 0) false).encode
      { zone := ⟨3600, true⟩ } ⟨"at", .typed .dateTime⟩).result {}).1 = .ok (some "2024-10-27T02:30:00+02:00") := by decide
  exact ((encode_aware (by rfl) (by rfl) hutc).2 (by rfl) (by rfl)).2 (by decide)

/-- A moment with no offset of its own keeps its fields, when the local clock shows them at all, and is written with an offset
that the local zone has at the instant so given. In the repeated hour that is the summer offset, and the standard one on the
second pass; elsewhere no pass gives another text, nor none, but for the first and the last day that have texts. -/
theorem encode_naive {s : Session} {text : String} (htemporal : (column.type.kindFor v.kind).isTemporal = true)
    (hmoment : v.moment? = some (m, none, fold)) (hvalid : m.Valid) (hexists : ¬ e.zone.Skips m.seconds)
    (htext : ((v.encode e column).result s).1 = .ok (some text)) :
    ∃ offset, text = m.isoText ++ offsetText offset ∧
      offset = e.zone.offsetAt ((m.micros - offset) / microsPerSecond) * microsPerSecond ∧
      (e.zone.Repeats m.seconds → offset = (if fold then e.zone.offset else e.zone.offset + summerSaving) * microsPerSecond) ∧
      (¬ e.zone.Repeats m.seconds → ∀ {column' : Column} {v' : Value} {fold' : Bool} {s' : Session},
        (column'.type.kindFor v'.kind).isTemporal = true → v'.moment? = some (m, none, fold') →
        (∀ {text'}, ((v'.encode e column').result s').1 = .ok (some text') → text' = text) ∧
        (m.date ≠ Date.firstDay → m.date ≠ Date.lastDay → ((v'.encode e column').result s').1 = .ok (some text))) := by
  obtain ⟨offset, hoffset, hwritten, hparts, hyears⟩ :=
    Zone.localText_naive hvalid hexists ((encode_eq_text_iff htemporal hmoment).1 htext)
  obtain ⟨hinforce, hwest, heast⟩ := Zone.checkedOffset_eq_ok_iff.1 hoffset
  refine ⟨offset, hparts, ?_, ?_, ?_⟩
  · rw [hinforce, Zone.micros_sub_div hvalid hexists]
  · intro hrepeats
    rw [hinforce, Zone.offsetAt_resolve_of_repeats hrepeats]
  · intro honce column' v' fold' s' htemporal' hmoment'
    have hpass := Zone.resolve_of_not_repeats hexists honce fold fold'
    simp only [encode_eq_text_iff htemporal' hmoment']
    constructor
    · intro text' htext'
      obtain ⟨offset', hoffset', -, hparts', -⟩ := Zone.localText_naive hvalid hexists htext'
      rw [hpass, hoffset, Except.ok.injEq] at hoffset'
      rw [hparts', hparts, hoffset']
    · intro hfirst hlast
      rw [← hpass] at hoffset
      rw [Zone.localText_of_days hvalid hyears hfirst hlast hoffset, hwritten]

/-- On the second pass the standard offset stands. -/
theorem encode_naive_second_pass : ∃ offset, "2024-10-27T02:30:00+01:00" =
    Moment.isoText ⟨⟨2024, 10, 27⟩, ⟨2, 30, 0, 0⟩⟩ ++ offsetText offset ∧ offset = 3600 * microsPerSecond := by
  have hsecond : (((dateTime ⟨⟨2024, 10, 27⟩, ⟨2, 30, 0, 0⟩⟩ none true).encode
      { zone := ⟨3600, true⟩ } ⟨"at", .typed .dateTime⟩).result {}).1 = .ok (some "2024-10-27T02:30:00+01:00") := by decide
  have hshown : (⟨3600, true⟩ : Zone).Shows (63865593000 - 3600) (Moment.seconds ⟨⟨2024, 10, 27⟩, ⟨2, 30, 0, 0⟩⟩) := by decide
  obtain ⟨offset, htext, -, hrepeated, -⟩ :=
    encode_naive (by rfl) (by rfl) (by decide) (Zone.exists_shows_iff.1 ⟨_, hshown⟩) hsecond
  exact ⟨offset, htext, hrepeated ⟨rfl, 2024, by decide, by decide⟩⟩

/-- On the first day a pass can be refused where the other one has a text. -/
example :
    (((dateTime ⟨Date.firstDay, {}⟩ none true).encode {} ⟨"at", .typed .dateTime⟩).result {}).1 =
        .ok (some "0001-01-01T00:00:00+00:00") ∧
      (((dateTime ⟨Date.firstDay, {}⟩ none false).encode {} ⟨"at", .typed .dateTime⟩).result {}).1 =
        .error (.yearRange 0) := by
  decide

end Value
end TableDump

import Mathlib.Algebra.Group.Basic
import Mathlib.Algebra.Group.Int.Defs
import TableDump.Calendar.Zone
import TableDump.Proofs.Calendar.DayNumber
import TableDump.Proofs.RunFrame

/-! # The local clock

What the wall clock shows, and the instant that is found for a reading of it.

* Summer time is an interval of the standard clock well inside each year (`summer_bounds`), so that there are two
  offsets, a reading can only belong to two instants (`shows_iff`), and the turn of a year is in winter
  (`offsetAt_of_turn`).
* `Zone.Skips`: readings of the hour that spring leaves out, which no instant shows (`exists_shows_iff`).
* `Zone.Repeats`: readings of the hour that autumn has twice, which two instants show (`repeats_iff`).
* `Zone.resolve`: the instant that `instantOf` finds (`instantOf_eq_ok`). It shows the reading when one does
  (`shows_resolve`); of two it is the earlier, and the later one on the second pass (`resolve_of_repeats`).
* But for the first and the last day of the calendar an instant is always found (`instantOf_eq_resolve`).
-/

namespace TableDump.Calendar
set_option autoImplicit false

namespace Zone
variable {z : Zone} {i j wall standard year : Int} {fold : Bool} {f : Fault}

/-! ## Summer time -/

/-- Beginning and end of summer time by the standard clock. -/
def summerStart (year : Int) : Int := (Date.lastSunday year 3 - 1) * secondsPerDay + 7200

def summerStop (year : Int) : Int := (Date.lastSunday year 10 - 1) * secondsPerDay + 7200

/-- The standard clock shows `standard` in summer time. -/
def InSummer (z : Zone) (standard : Int) : Prop :=
  z.summer = true ∧ ∃ year, summerStart year ≤ standard ∧ standard < summerStop year

theorem summerOf_eq (z : Zone) (year : Int) : z.summerOf year = (summerStart year - z.offset, summerStop year - z.offset) := by
  simp only [summerOf, summerStart, summerStop, summerSaving, Prod.mk.injEq, true_and]
  omega

theorem summer_bounds (year : Int) : daysBeforeYear year * secondsPerDay + 60 * secondsPerDay ≤ summerStart year ∧
    summerStart year + 2 * secondsPerDay ≤ summerStop year ∧
    summerStop year + 60 * secondsPerDay ≤ daysBeforeYear (year + 1) * secondsPerDay := by
  obtain ⟨hmarch, hoctober, -⟩ := daysBeforeMonth_values year
  have hleap := leapDays_le year
  simp only [summerStart, summerStop, Date.lastSunday, Date.dayNumber, hmarch, hoctober, daysBeforeYear_succ, secondsPerDay]
  omega

theorem yearOf_eq_iff_seconds : Date.yearOf (standard / secondsPerDay + 1) = year ↔
    daysBeforeYear year * secondsPerDay ≤ standard ∧ standard < daysBeforeYear (year + 1) * secondsPerDay := by
  rw [yearOf_eq_iff]
  unfold secondsPerDay
  omega

theorem inSummer_iff_of_year (hlow : daysBeforeYear year * secondsPerDay ≤ standard)
    (hhigh : standard < daysBeforeYear (year + 1) * secondsPerDay) :
    z.InSummer standard ↔ z.summer = true ∧ summerStart year ≤ standard ∧ standard < summerStop year := by
  constructor
  · rintro ⟨hsummer, other, hstart, hstop⟩
    obtain ⟨hfirst, -, hlast⟩ := summer_bounds other
    have hyear : other = year := by
      rw [← yearOf_eq_iff_seconds.2 ⟨hlow, hhigh⟩]
      unfold secondsPerDay at hfirst hlast
      exact (yearOf_eq_iff_seconds.2 (by unfold secondsPerDay; omega)).symm
    subst hyear
    exact ⟨hsummer, hstart, hstop⟩
  · rintro ⟨hsummer, hstart, hstop⟩
    exact ⟨hsummer, year, hstart, hstop⟩

/-- Around the summer of a year there is no other one. -/
theorem inSummer_iff_of_near (year : Int) (hlow : summerStart year - secondsPerDay ≤ standard)
    (hhigh : standard < summerStop year + 2 * secondsPerDay) :
    z.InSummer standard ↔ z.summer = true ∧ summerStart year ≤ standard ∧ standard < summerStop year := by
  obtain ⟨hfirst, -, hlast⟩ := summer_bounds year
  unfold secondsPerDay at *
  exact inSummer_iff_of_year (by unfold secondsPerDay; omega) (by unfold secondsPerDay; omega)

/-- Two months before and after the turn of a year there is no summer time. -/
theorem not_inSummer_of_turn (hlow : (daysBeforeYear year - 60) * secondsPerDay ≤ standard)
    (hhigh : standard < (daysBeforeYear year + 60) * secondsPerDay) : ¬ z.InSummer standard := by
  rintro ⟨-, other, hstart, hstop⟩
  obtain ⟨hfirst, -, hlast⟩ := summer_bounds other
  unfold secondsPerDay at hlow hhigh hfirst hlast
  by_cases hless : other < year
  · have := daysBeforeYear_mono (show other + 1 ≤ year from hless)
    omega
  · have := daysBeforeYear_mono (Int.not_lt.1 hless)
    omega

theorem offsetAt_spec : (z.InSummer (i + z.offset) → z.offsetAt i = z.offset + summerSaving) ∧
    (¬ z.InSummer (i + z.offset) → z.offsetAt i = z.offset) := by
  obtain ⟨hlow, hhigh⟩ := yearOf_eq_iff_seconds.1 (Eq.refl (Date.yearOf ((i + z.offset) / secondsPerDay + 1)))
  rw [inSummer_iff_of_year hlow hhigh, offsetAt, summerOf_eq]
  by_cases hsummer : z.summer = true
  · simp only [hsummer, if_true, true_and]
    constructor
    · intro h
      rw [if_pos (by omega)]
    · intro h
      rw [if_neg (by omega)]
  · rw [if_neg hsummer]
    exact ⟨fun h => absurd h.1 hsummer, fun _ => rfl⟩

theorem offsetAt_of_inSummer (h : z.InSummer (i + z.offset)) : z.offsetAt i = z.offset + summerSaving :=
  offsetAt_spec.1 h

theorem offsetAt_of_not_inSummer (h : ¬ z.InSummer (i + z.offset)) : z.offsetAt i = z.offset :=
  offsetAt_spec.2 h

theorem offsetAt_eq_or (z : Zone) (i : Int) : z.offsetAt i = z.offset ∨ z.offsetAt i = z.offset + summerSaving :=
  (Classical.em (z.InSummer (i + z.offset))).symm.imp offsetAt_of_not_inSummer offsetAt_of_inSummer

/-- What the standard clock shows at the instant that an offset makes of a reading. -/
theorem standard_sub_offsetAt (z : Zone) (wall i : Int) :
    wall - summerSaving ≤ wall - z.offsetAt i + z.offset ∧ wall - z.offsetAt i + z.offset ≤ wall := by
  rcases offsetAt_eq_or z i with hi | hi
  all_goals
    simp only [hi, summerSaving]
    omega

theorem offsetAt_of_turn (year : Int) (hlow : (daysBeforeYear year - 60) * secondsPerDay ≤ i + z.offset)
    (hhigh : i + z.offset < (daysBeforeYear year + 60) * secondsPerDay) : z.offsetAt i = z.offset :=
  offsetAt_of_not_inSummer (not_inSummer_of_turn hlow hhigh)

theorem offsetAt_before_stop (hkept : z.summer = true) (hlow : summerStop year - 2 * secondsPerDay ≤ i + z.offset)
    (hhigh : i + z.offset < summerStop year) : z.offsetAt i = z.offset + summerSaving := by
  obtain ⟨-, hlength, -⟩ := summer_bounds year
  exact offsetAt_of_inSummer ⟨hkept, year, by omega, hhigh⟩

theorem offsetAt_after_stop (hlow : summerStop year ≤ i + z.offset)
    (hhigh : i + z.offset < summerStop year + 2 * secondsPerDay) : z.offsetAt i = z.offset := by
  obtain ⟨-, hlength, -⟩ := summer_bounds year
  refine offsetAt_of_not_inSummer ?_
  rw [inSummer_iff_of_near year (by unfold secondsPerDay at *; omega) hhigh]
  exact fun h => Int.not_lt.2 hlow h.2.2

/-! ## Readings -/

/-- The wall clock shows `wall` at an instant. -/
def Shows (z : Zone) (instant wall : Int) : Prop := instant + z.offsetAt instant = wall

instance (z : Zone) (instant wall : Int) : Decidable (z.Shows instant wall) := inferInstanceAs (Decidable (_ = _))

/-- The readings of the hour left out in spring. -/
def Skips (z : Zone) (wall : Int) : Prop :=
  z.summer = true ∧ ∃ year, summerStart year ≤ wall ∧ wall < summerStart year + summerSaving

/-- The readings of the hour that is there twice in autumn. -/
def Repeats (z : Zone) (wall : Int) : Prop :=
  z.summer = true ∧ ∃ year, summerStop year ≤ wall ∧ wall < summerStop year + summerSaving

theorem shows_standard_iff : z.Shows (wall - z.offset) wall ↔ ¬ z.InSummer wall := by
  have hstandard : wall - z.offset + z.offset = wall := Int.sub_add_cancel _ _
  unfold Shows
  constructor
  · intro h hsummer
    rw [offsetAt_of_inSummer (hstandard.symm ▸ hsummer)] at h
    unfold summerSaving at h
    omega
  · intro h
    rw [offsetAt_of_not_inSummer (hstandard.symm ▸ h), hstandard]

theorem shows_summer_iff : z.Shows (wall - (z.offset + summerSaving)) wall ↔ z.InSummer (wall - summerSaving) := by
  have hstandard : wall - (z.offset + summerSaving) + z.offset = wall - summerSaving := by omega
  unfold Shows
  constructor
  · intro h
    by_contra hsummer
    rw [offsetAt_of_not_inSummer (hstandard.symm ▸ hsummer)] at h
    unfold summerSaving at h
    omega
  · intro h
    rw [offsetAt_of_inSummer (hstandard.symm ▸ h), Int.sub_add_cancel]

theorem Shows.eq_or (h : z.Shows i wall) : i = wall - z.offset ∨ i = wall - (z.offset + summerSaving) := by
  unfold Shows at h
  rcases offsetAt_eq_or z i with hi | hi <;> omega

theorem shows_iff : z.Shows i wall ↔ i = wall - z.offset ∧ ¬ z.InSummer wall ∨
    i = wall - (z.offset + summerSaving) ∧ z.InSummer (wall - summerSaving) := by
  constructor
  · intro h
    rcases h.eq_or with rfl | rfl
    · exact .inl ⟨rfl, shows_standard_iff.1 h⟩
    · exact .inr ⟨rfl, shows_summer_iff.1 h⟩
  · rintro (⟨rfl, h⟩ | ⟨rfl, h⟩)
    · exact shows_standard_iff.2 h
    · exact shows_summer_iff.2 h

theorem skips_iff_inSummer : z.Skips wall ↔ z.InSummer wall ∧ ¬ z.InSummer (wall - summerSaving) := by
  constructor
  · rintro ⟨hsummer, year, hlow, hhigh⟩
    obtain ⟨-, hlength, -⟩ := summer_bounds year
    unfold summerSaving at hhigh ⊢
    unfold secondsPerDay at hlength
    rw [inSummer_iff_of_near year (by unfold secondsPerDay; omega) (by unfold secondsPerDay; omega)]
    rw [inSummer_iff_of_near year (by unfold secondsPerDay; omega) (by unfold secondsPerDay; omega)]
    simp only [hsummer, true_and]
    omega
  · rintro ⟨⟨hsummer, year, hlow, hhigh⟩, hbefore⟩
    refine ⟨hsummer, year, hlow, ?_⟩
    by_contra hlate
    exact hbefore ⟨hsummer, year, by unfold summerSaving at *; omega, by unfold summerSaving at *; omega⟩

theorem repeats_iff_inSummer : z.Repeats wall ↔ ¬ z.InSummer wall ∧ z.InSummer (wall - summerSaving) := by
  constructor
  · rintro ⟨hsummer, year, hlow, hhigh⟩
    obtain ⟨-, hlength, -⟩ := summer_bounds year
    unfold summerSaving at hhigh ⊢
    unfold secondsPerDay at hlength
    rw [inSummer_iff_of_near year (by unfold secondsPerDay; omega) (by unfold secondsPerDay; omega)]
    rw [inSummer_iff_of_near year (by unfold secondsPerDay; omega) (by unfold secondsPerDay; omega)]
    simp only [hsummer, true_and]
    omega
  · rintro ⟨hafter, hsummer, year, hlow, hhigh⟩
    refine ⟨hsummer, year, ?_, by omega⟩
    by_contra hearly
    exact hafter ⟨hsummer, year, by unfold summerSaving at *; omega, by omega⟩

/-- The hour left out in spring, and no other reading, is shown at no instant. -/
theorem exists_shows_iff : (∃ i, z.Shows i wall) ↔ ¬ z.Skips wall := by
  simp only [shows_iff, skips_iff_inSummer, exists_or, exists_and_right, exists_eq, true_and]
  tauto

/-- The hour that is there twice in autumn, and no other reading, is shown at two instants. -/
theorem repeats_iff : z.Repeats wall ↔ ∃ i j, i < j ∧ z.Shows i wall ∧ z.Shows j wall := by
  rw [repeats_iff_inSummer]
  constructor
  · rintro ⟨hstandard, hsummer⟩
    exact ⟨_, _, by unfold summerSaving; omega, shows_summer_iff.2 hsummer, shows_standard_iff.2 hstandard⟩
  · rintro ⟨i, j, hless, hi, hj⟩
    rcases shows_iff.1 hi with ⟨rfl, hstandard⟩ | ⟨rfl, hsummer⟩
    · rcases hj.eq_or with rfl | rfl
      · exact absurd hless (Int.lt_irrefl _)
      · unfold summerSaving at hless
        omega
    · rcases shows_iff.1 hj with ⟨rfl, hstandard⟩ | ⟨rfl, -⟩
      · exact ⟨hstandard, hsummer⟩
      · exact absurd hless (Int.lt_irrefl _)

/-! ## Finding the instant -/

theorem reading_eq_ok {shown : Int} (h : z.reading i = .ok shown) : shown = i + z.offsetAt i := by
  rw [reading] at h
  split at h
  · cases h
    rfl
  · cases h

/-- The offset tried after the first one: the one a day away when the first instant shows the reading, and the one in force
there when it does not. -/
def secondOffset (z : Zone) (wall first : Int) (fold : Bool) : Int :=
  z.offsetAt (if z.Shows first wall then (if fold then first + secondsPerDay else first - secondsPerDay) else first)

/-- The instant found for a reading, no reading of the clock being refused. -/
def resolve (z : Zone) (wall : Int) (fold : Bool) : Int :=
  let first := wall - z.offsetAt wall
  let second := wall - z.secondOffset wall first fold
  if z.Shows second wall then second
  else if z.Shows first wall then first
  else if fold then min first second else max first second

theorem instantOf_eq_ok (h : z.instantOf wall fold = .ok i) : i = z.resolve wall fold := by
  rw [instantOf] at h
  obtain ⟨utc, hutc, h⟩ := outcome_bind_eq_ok_iff.1 h
  obtain rfl := reading_eq_ok hutc
  simp only [add_sub_cancel_left] at h
  obtain ⟨shown, hshown, h⟩ := outcome_bind_eq_ok_iff.1 h
  obtain rfl := reading_eq_ok hshown
  simp only [add_sub_cancel_left] at h
  simp only [resolve, secondOffset]
  by_cases hfirst : z.Shows (wall - z.offsetAt wall) wall
  · rw [if_pos (show _ = wall from hfirst)] at h
    obtain ⟨away, haway, h⟩ := outcome_bind_eq_ok_iff.1 h
    obtain rfl := reading_eq_ok haway
    simp only [add_sub_cancel_left] at h
    simp only [if_pos hfirst]
    generalize z.offsetAt (if fold = true then _ else _) = b at h ⊢
    split at h
    · next hsame =>
      cases h
      rw [← hsame, if_pos hfirst]
    · obtain ⟨shown, hshown, h⟩ := outcome_bind_eq_ok_iff.1 h
      obtain rfl := reading_eq_ok hshown
      cases h
      rfl
  · rw [if_neg (show ¬ _ = wall from hfirst)] at h
    obtain ⟨shown, hshown, h⟩ := outcome_bind_eq_ok_iff.1 h
    obtain rfl := reading_eq_ok hshown
    simp only [if_neg hfirst]
    split at h
    · next hsecond =>
      cases h
      rw [if_pos (show z.Shows _ _ from hsecond)]
    · next hsecond =>
      cases h
      rw [if_neg (show ¬ z.Shows _ _ from hsecond)]

/-- There are two offsets only: when an instant does not show a reading by one, it shows it by the other or not at all. -/
theorem Shows.eq_sub_offsetAt (h : z.Shows i wall) (hfirst : ¬ z.Shows (wall - z.offsetAt j) wall) :
    i = wall - z.offsetAt (wall - z.offsetAt j) := by
  have hi := h.eq_or
  have hne : i ≠ wall - z.offsetAt j := fun heq => hfirst (heq ▸ h)
  have hother : z.offsetAt (wall - z.offsetAt j) ≠ z.offsetAt j := fun heq => hfirst (by unfold Shows; omega)
  rcases offsetAt_eq_or z j with hj | hj <;> rcases offsetAt_eq_or z (wall - z.offsetAt j) with hk | hk <;> omega

/-- A reading that is shown at all is shown at the instant found for it. -/
theorem shows_resolve (hexists : ¬ z.Skips wall) : z.Shows (z.resolve wall fold) wall := by
  obtain ⟨i, h⟩ := exists_shows_iff.2 hexists
  simp only [resolve]
  split
  · next hsecond => exact hsecond
  · next hsecond =>
    split
    · next hfirst => exact hfirst
    · next hfirst =>
      rw [secondOffset, if_neg hfirst, ← h.eq_sub_offsetAt hfirst] at hsecond
      exact absurd h hsecond

theorem eq_of_not_repeats (h : ¬ z.Repeats wall) (hi : z.Shows i wall) (hj : z.Shows j wall) : i = j := by
  rw [repeats_iff] at h
  rcases Int.lt_trichotomy i j with hless | heq | hless
  · exact absurd ⟨i, j, hless, hi, hj⟩ h
  · exact heq
  · exact absurd ⟨j, i, hless, hj, hi⟩ h

theorem shows_of_repeats (h : z.Repeats wall) {offset : Int} (hoffset : offset = z.offset ∨ offset = z.offset + summerSaving) :
    z.Shows (wall - offset) wall := by
  obtain ⟨hstandard, hsummer⟩ := repeats_iff_inSummer.1 h
  rcases hoffset with rfl | rfl
  · exact shows_standard_iff.2 hstandard
  · exact shows_summer_iff.2 hsummer

/-- A day before the repeated hour there is summer time, and a day after it there is not. -/
theorem secondOffset_of_repeats (h : z.Repeats wall) (fold : Bool) :
    z.secondOffset wall (wall - z.offsetAt wall) fold = if fold then z.offset else z.offset + summerSaving := by
  rw [secondOffset, if_pos (shows_of_repeats h (offsetAt_eq_or z wall))]
  obtain ⟨hkept, year, hlow, hhigh⟩ := h
  obtain ⟨hfrom, hto⟩ := standard_sub_offsetAt z wall wall
  unfold summerSaving at hhigh hfrom
  cases fold with
  | false =>
    have hbefore : summerStop year - 2 * secondsPerDay ≤ wall - z.offsetAt wall - secondsPerDay + z.offset ∧
        wall - z.offsetAt wall - secondsPerDay + z.offset < summerStop year := by
      unfold secondsPerDay
      omega
    exact offsetAt_before_stop hkept hbefore.1 hbefore.2
  | true =>
    have hafter : summerStop year ≤ wall - z.offsetAt wall + secondsPerDay + z.offset ∧
        wall - z.offsetAt wall + secondsPerDay + z.offset < summerStop year + 2 * secondsPerDay := by
      unfold secondsPerDay
      omega
    exact offsetAt_after_stop hafter.1 hafter.2

/-- Of the two instants of a repeated reading the earlier one is found, and the later one on the second pass. -/
theorem resolve_of_repeats (h : z.Repeats wall) (fold : Bool) :
    z.resolve wall fold = wall - (if fold then z.offset else z.offset + summerSaving) := by
  have hsecond : z.Shows (wall - if fold then z.offset else z.offset + summerSaving) wall := by
    refine shows_of_repeats h ?_
    cases fold
    · exact .inr rfl
    · exact .inl rfl
  simp only [resolve, secondOffset_of_repeats h]
  exact if_pos hsecond

theorem offsetAt_resolve_of_repeats (h : z.Repeats wall) :
    z.offsetAt (z.resolve wall fold) = if fold then z.offset else z.offset + summerSaving := by
  obtain ⟨i, -, -, hi, -⟩ := repeats_iff.1 h
  have hshown : z.Shows (z.resolve wall fold) wall := shows_resolve (exists_shows_iff.1 ⟨i, hi⟩)
  unfold Shows at hshown
  have hfound := resolve_of_repeats h fold
  omega

/-- The pass of the clock counts in the repeated hour only. -/
theorem resolve_of_not_repeats (hexists : ¬ z.Skips wall) (h : ¬ z.Repeats wall) (fold pass : Bool) :
    z.resolve wall pass = z.resolve wall fold :=
  eq_of_not_repeats h (shows_resolve hexists) (shows_resolve hexists)

/-! ## Refused readings -/

theorem offsetAt_le (z : Zone) (i j : Int) : z.offsetAt i ≤ z.offsetAt j + summerSaving := by
  unfold summerSaving
  rcases offsetAt_eq_or z i with hi | hi <;> rcases offsetAt_eq_or z j with hj | hj
  all_goals
    simp only [hi, hj, summerSaving]
    omega

/-- By the offset in force there, or by the one in force at the reading, the clock shows a day from `wall` at most. -/
def Near (z : Zone) (wall instant : Int) : Prop :=
  ∃ j, (j = instant ∨ j = wall) ∧ wall - secondsPerDay ≤ instant + z.offsetAt j ∧
    instant + z.offsetAt j ≤ wall + secondsPerDay

/-- One offset is taken from the reading and another one is added again: the hour between them is all there is. -/
theorem near_sub_offsetAt (z : Zone) (wall i : Int) : z.Near wall (wall - z.offsetAt i) := by
  have hless := offsetAt_le z i (wall - z.offsetAt i)
  have hmore := offsetAt_le z (wall - z.offsetAt i) i
  unfold summerSaving at hless hmore
  refine ⟨_, .inl rfl, ?_⟩
  unfold secondsPerDay
  omega

theorem near_away (z : Zone) (wall : Int) (fold : Bool) :
    z.Near wall (if fold then wall - z.offsetAt wall + secondsPerDay else wall - z.offsetAt wall - secondsPerDay) := by
  refine ⟨wall, .inr rfl, ?_⟩
  unfold secondsPerDay
  split <;> omega

/-- An instant is looked for at the reading itself, taken for UTC, and near it. -/
theorem instantOf_eq_error (h : z.instantOf wall fold = .error f) :
    ∃ i, z.reading i = .error f ∧ (i = wall ∨ z.Near wall i) := by
  rw [instantOf] at h
  obtain h | ⟨utc, hutc, h⟩ := outcome_bind_eq_error_iff.1 h
  · exact ⟨wall, h, .inl rfl⟩
  obtain rfl := reading_eq_ok hutc
  simp only [add_sub_cancel_left] at h
  obtain h | ⟨shown, hshown, h⟩ := outcome_bind_eq_error_iff.1 h
  · exact ⟨_, h, .inr (near_sub_offsetAt z wall _)⟩
  obtain rfl := reading_eq_ok hshown
  simp only [add_sub_cancel_left] at h
  split at h
  · have haway := near_away z wall fold
    generalize (if fold = true then _ else _) = away at h haway
    obtain h | ⟨shown, hshown, h⟩ := outcome_bind_eq_error_iff.1 h
    · exact ⟨away, h, .inr haway⟩
    obtain rfl := reading_eq_ok hshown
    simp only [add_sub_cancel_left] at h
    split at h
    · cases h
    · obtain h | ⟨_, _, h⟩ := outcome_bind_eq_error_iff.1 h
      · exact ⟨_, h, .inr (near_sub_offsetAt z wall _)⟩
      · cases h
  · obtain h | ⟨_, _, h⟩ := outcome_bind_eq_error_iff.1 h
    · exact ⟨_, h, .inr (near_sub_offsetAt z wall _)⟩
    · split at h <;> cases h

theorem reading_of_years (hlow : daysBeforeYear firstYear * secondsPerDay ≤ i + z.offsetAt i)
    (hhigh : i + z.offsetAt i < daysBeforeYear (lastYear + 1) * secondsPerDay) : z.reading i = .ok (i + z.offsetAt i) := by
  rw [reading]
  refine if_pos ?_
  obtain ⟨hbegun, hended⟩ := yearOf_eq_iff_seconds.1 (Eq.refl (Date.yearOf ((i + z.offsetAt i) / secondsPerDay + 1)))
  constructor
  · by_contra hearly
    have := daysBeforeYear_mono (Int.not_le.1 hearly)
    unfold secondsPerDay at *
    omega
  · by_contra hlate
    have := daysBeforeYear_mono (Int.not_le.1 hlate)
    unfold secondsPerDay at *
    omega

theorem resolve_eq_sub_offsetAt (z : Zone) (wall : Int) (fold : Bool) : ∃ j, z.resolve wall fold = wall - z.offsetAt j := by
  simp only [resolve, Int.min_def, Int.max_def]
  repeat' split
  all_goals exact ⟨_, rfl⟩

section
variable (hwest : -secondsPerDay < z.offsetAt (z.resolve wall fold)) (heast : z.offsetAt (z.resolve wall fold) < secondsPerDay)
  (hi : i = wall ∨ z.Near wall i)
include hwest heast hi

theorem shown_bounds : wall - 2 * secondsPerDay ≤ i + z.offsetAt i ∧ i + z.offsetAt i ≤ wall + 2 * secondsPerDay := by
  unfold secondsPerDay at hwest heast ⊢
  rcases hi with rfl | ⟨j, -, hlow, hhigh⟩
  · have hless := offsetAt_le z i (z.resolve i fold)
    have hmore := offsetAt_le z (z.resolve i fold) i
    unfold summerSaving at hless hmore
    omega
  · have hless := offsetAt_le z i j
    have hmore := offsetAt_le z j i
    unfold summerSaving at hless hmore
    unfold secondsPerDay at hlow hhigh
    omega

/-- In winter there is one offset only. -/
theorem shown_bounds_of_turn (year : Int) (hlow : (daysBeforeYear year - 3) * secondsPerDay ≤ wall)
    (hhigh : wall < (daysBeforeYear year + 3) * secondsPerDay) :
    wall - secondsPerDay ≤ i + z.offsetAt i ∧ i + z.offsetAt i ≤ wall + secondsPerDay := by
  have hwinter : ∀ {k}, wall - 2 * secondsPerDay ≤ k + z.offset → k + z.offset ≤ wall + 2 * secondsPerDay →
      z.offsetAt k = z.offset := by
    intro k hbegun hended
    unfold secondsPerDay at hlow hhigh hbegun hended
    exact offsetAt_of_turn year (by unfold secondsPerDay; omega) (by unfold secondsPerDay; omega)
  obtain ⟨j, hj⟩ := resolve_eq_sub_offsetAt z wall fold
  obtain ⟨hfrom, hto⟩ := standard_sub_offsetAt z wall j
  have hfound : z.offsetAt (z.resolve wall fold) = z.offset := by
    unfold summerSaving at hfrom
    rw [hj]
    exact hwinter (by unfold secondsPerDay; omega) (by unfold secondsPerDay; omega)
  rw [hfound] at hwest heast
  have hwall : z.offsetAt wall = z.offset := by
    unfold secondsPerDay at hwest heast
    exact hwinter (by unfold secondsPerDay; omega) (by unfold secondsPerDay; omega)
  rcases hi with rfl | ⟨k, rfl | rfl, hbegun, hended⟩
  · omega
  · exact ⟨hbegun, hended⟩
  · rw [hwall] at hbegun hended
    unfold secondsPerDay at hbegun hended
    rw [hwinter (by unfold secondsPerDay; omega) (by unfold secondsPerDay; omega)]
    exact ⟨hbegun, hended⟩

end

/-- But for the first and the last day of the calendar every reading has an instant found for it. -/
theorem instantOf_eq_resolve (hlow : (daysBeforeYear firstYear + 1) * secondsPerDay ≤ wall)
    (hhigh : wall < (daysBeforeYear (lastYear + 1) - 1) * secondsPerDay)
    (hwest : -secondsPerDay < z.offsetAt (z.resolve wall fold)) (heast : z.offsetAt (z.resolve wall fold) < secondsPerDay) :
    z.instantOf wall fold = .ok (z.resolve wall fold) := by
  have hshown : ∀ {i}, i = wall ∨ z.Near wall i → daysBeforeYear firstYear * secondsPerDay ≤ i + z.offsetAt i ∧
      i + z.offsetAt i < daysBeforeYear (lastYear + 1) * secondsPerDay := by
    intro i hi
    have hfar := shown_bounds hwest heast hi
    have hfirst := shown_bounds_of_turn hwest heast hi firstYear
    have hlast := shown_bounds_of_turn hwest heast hi (lastYear + 1)
    have hspan : daysBeforeYear firstYear + 10 ≤ daysBeforeYear (lastYear + 1) := by decide
    unfold secondsPerDay at *
    omega
  cases h : z.instantOf wall fold with
  | ok i => rw [instantOf_eq_ok h]
  | error f =>
    obtain ⟨i, herror, hi⟩ := instantOf_eq_error h
    rw [reading_of_years (hshown hi).1 (hshown hi).2] at herror
    cases herror

end Zone
end TableDump.Calendar

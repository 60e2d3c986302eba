import Mathlib.Data.Nat.Digits.Lemmas
import TableDump.Calendar.Iso
import TableDump.Proofs.Calendar.DayNumber

/-! # Reading what was written

A moment and its offset are read back from their text (`readMoment_text`).

* A number written in so many digits is read back from them (`fixedDigits_zeroPadded`).
* A clock reading is, with and without its fraction (`clockForm_text`), and so is an offset, which leaves out the seconds
  when there are none (`zoneForm_offsetText`).
* The offset begins at its sign, since no clock reading has one (`not_startsZone_text`).
-/

namespace TableDump.Calendar
open TableDump.Text
set_option autoImplicit false

/-! ## Digits -/

theorem digitValue?_of_isDigit {c : Char} (h : c.isDigit = true) : digitValue? c = some (c.toNat - 48) := by
  simp only [Char.isDigit, Bool.and_eq_true, decide_eq_true_eq] at h
  exact if_pos h

theorem toList_zeroPadded (width n : Nat) : (zeroPadded width n).toList =
    List.replicate (width - (Nat.toDigits 10 n).length) '0' ++ Nat.toDigits 10 n := by
  simp only [zeroPadded, Nat.toString_eq_ofList_toDigits, String.toList_append, String.toList_ofList, String.length_ofList]

theorem isDigit_of_mem_zeroPadded {width n : Nat} {c : Char} (h : c ∈ (zeroPadded width n).toList) : c.isDigit = true := by
  rw [toList_zeroPadded, List.mem_append] at h
  rcases h with h | h
  · rw [List.eq_of_mem_replicate h]
    rfl
  · exact Nat.isDigit_of_mem_toDigits (by decide) (by decide) h

theorem length_zeroPadded {width n : Nat} (hwidth : 0 < width) (h : n < 10 ^ width) :
    (zeroPadded width n).toList.length = width := by
  have hdigits : (Nat.toDigits 10 n).length ≤ width := (Nat.length_toDigits_le_iff (by decide) hwidth).2 h
  rw [toList_zeroPadded, List.length_append, List.length_replicate, Nat.sub_add_cancel hdigits]

theorem ofDigitChars_zeroPadded (width n : Nat) : Nat.ofDigitChars 10 (zeroPadded width n).toList 0 = n := by
  rw [toList_zeroPadded, Nat.ofDigitChars_append, Nat.ofDigitChars_replicate_zero, Nat.mul_zero,
    Nat.ofDigitChars_ten_toDigits]

theorem fixedDigits_append {digits : List Char} (h : ∀ c ∈ digits, c.isDigit = true) (value : Nat) (rest : List Char) :
    fixedDigits value digits.length (digits ++ rest) = some (Nat.ofDigitChars 10 digits value, rest) := by
  induction digits generalizing value with
  | nil => rfl
  | cons c digits ih =>
    obtain ⟨hc, hdigits⟩ := List.forall_mem_cons.1 h
    rw [List.length_cons, List.cons_append, fixedDigits, digitValue?_of_isDigit hc, Option.bind_some, ih hdigits,
      Nat.ofDigitChars_cons, Nat.mul_comm value 10]
    rfl

theorem fixedDigits_zeroPadded {width n : Nat} (hwidth : 0 < width) (h : n < 10 ^ width) (rest : List Char) :
    fixedDigits 0 width ((zeroPadded width n).toList ++ rest) = some (n, rest) := by
  have hread := fixedDigits_append (fun c (hc : c ∈ (zeroPadded width n).toList) => isDigit_of_mem_zeroPadded hc) 0 rest
  rwa [length_zeroPadded hwidth h, ofDigitChars_zeroPadded] at hread

/-! ## Fractions -/

theorem toList_microText (micro : Nat) :
    (microText micro).toList = if micro = 0 then [] else '.' :: (zeroPadded 6 micro).toList := by
  unfold microText
  split
  · rfl
  · rw [String.toList_append]
    rfl

theorem mapM_digitValue? {digits : List Char} (h : ∀ c ∈ digits, c.isDigit = true) :
    digits.mapM digitValue? = some (digits.map fun c => c.toNat - 48) := by
  induction digits with
  | nil => rfl
  | cons c digits ih =>
    obtain ⟨hc, hdigits⟩ := List.forall_mem_cons.1 h
    rw [List.mapM_cons, digitValue?_of_isDigit hc, ih hdigits]
    rfl

theorem microForm_microText {micro : Nat} (h : micro ≤ 999999) : microForm (microText micro).toList = some micro := by
  rw [toList_microText]
  split
  · next hzero => rw [hzero, microForm]
  · have hlength : (zeroPadded 6 micro).toList.length = 6 := length_zeroPadded (by decide) (by omega)
    have hnonempty : (zeroPadded 6 micro).toList.isEmpty = false :=
      List.isEmpty_eq_false_iff.2 (List.ne_nil_of_length_pos (by omega))
    have hvalue := ofDigitChars_zeroPadded 6 micro
    simp only [Nat.ofDigitChars_eq_foldl, Nat.mul_comm 10] at hvalue
    rw [microForm, hnonempty, if_neg Bool.false_ne_true, mapM_digitValue? fun _ => isDigit_of_mem_zeroPadded, Option.map_some,
      List.take_left' ((List.length_map _).trans hlength), List.foldl_map]
    exact congrArg some hvalue

/-! ## Clock readings -/

theorem clockPairs_cons {n : Nat} (h : n < 100) (count : Nat) (rest : List Char) :
    clockPairs true (count + 2) ((zeroPadded 2 n).toList ++ ':' :: rest) =
      (clockPairs true (count + 1) rest).map fun (values, rest) => (n :: values, rest) := by
  rw [clockPairs, fixedDigits_zeroPadded (by decide) h]
  rfl

theorem clockPairs_last {n : Nat} (h : n < 100) (count micro : Nat) :
    clockPairs true (count + 1) ((zeroPadded 2 n).toList ++ (microText micro).toList) =
      some ([n], (microText micro).toList) := by
  rw [clockPairs, fixedDigits_zeroPadded (by decide) h, toList_microText]
  by_cases hmicro : micro = 0
  · rw [if_pos hmicro]
    rfl
  · rw [if_neg hmicro]
    rfl

theorem head?_drop_zeroPadded {n : Nat} (h : n < 100) (rest : List Char) :
    (((zeroPadded 2 n).toList ++ rest).drop 2).head? = rest.head? := by
  rw [List.drop_left' (length_zeroPadded (by decide) h)]

theorem toList_text (c : Clock) : c.text.toList = (zeroPadded 2 c.hour).toList ++ ':' ::
    ((zeroPadded 2 c.minute).toList ++ ':' :: ((zeroPadded 2 c.second).toList ++ (microText c.micro).toList)) := by
  simp [Clock.text, String.toList_append]

theorem clockForm_text {c : Clock} (h : c.Valid) : clockForm c.text.toList = some c := by
  obtain ⟨hhour, hminute, hsecond, hmicro⟩ := h
  rw [toList_text, clockForm, head?_drop_zeroPadded (by omega)]
  simp only [List.head?_cons, beq_self_eq_true, clockPairs_cons (show c.hour < 100 by omega),
    clockPairs_cons (show c.minute < 100 by omega), clockPairs_last (show c.second < 100 by omega), Option.map_some]
  simp [microForm_microText hmicro]

/-- The reading of an offset with no seconds. -/
theorem clockForm_minutes {hour minute : Nat} (hhour : hour < 100) (hminute : minute < 100) :
    clockForm ((zeroPadded 2 hour).toList ++ ':' :: (zeroPadded 2 minute).toList) = some ⟨hour, minute, 0, 0⟩ := by
  have hlast := clockPairs_last hminute 1 0
  simp only [toList_microText, if_true, List.append_nil] at hlast
  rw [clockForm, head?_drop_zeroPadded hhour]
  simp only [List.head?_cons, beq_self_eq_true, clockPairs_cons hhour, hlast, Option.map_some]
  rfl

/-! ## Offsets -/

/-- The clock reading of an offset. -/
def Clock.shortText (c : Clock) : String := zeroPadded 2 c.hour ++ ":" ++ zeroPadded 2 c.minute ++
  if c.second = 0 ∧ c.micro = 0 then "" else ":" ++ zeroPadded 2 c.second ++ microText c.micro

theorem toList_shortText (c : Clock) : c.shortText.toList = if c.second = 0 ∧ c.micro = 0
    then (zeroPadded 2 c.hour).toList ++ ':' :: (zeroPadded 2 c.minute).toList else c.text.toList := by
  rw [Clock.shortText]
  split <;> simp [Clock.text, String.toList_append]

theorem clockForm_shortText {c : Clock} (h : c.Valid) : clockForm c.shortText.toList = some c := by
  rw [toList_shortText]
  split
  · next hzero =>
    obtain ⟨hour, minute, second, micro⟩ := c
    obtain ⟨rfl, rfl⟩ := hzero
    exact clockForm_minutes (Nat.lt_of_le_of_lt h.hour_le (by decide)) (Nat.lt_of_le_of_lt h.minute_le (by decide))
  · exact clockForm_text h

theorem toList_offsetText (offset : Int) : (offsetText offset).toList =
    (if offset < 0 then '-' else '+') :: (Clock.ofMicros offset.natAbs).shortText.toList := by
  rw [offsetText, Clock.shortText]
  split <;> simp [String.toList_append]

theorem zoneForm_offsetText {offset : Int} (hlow : -microsPerDay < offset) (hhigh : offset < microsPerDay) :
    zoneForm (offsetText offset).toList = some (some offset) := by
  have hclock := clockForm_shortText (Clock.valid_ofMicros (n := offset.natAbs) (by omega))
  have hmicros := Clock.micros_ofMicros offset.natAbs
  rw [toList_offsetText]
  split
  · next hneg =>
    have hvalue : -(offset.natAbs : Int) = offset := by omega
    rw [zoneForm, hclock, Option.map_some, hmicros, hvalue]
  · next hneg =>
    have hvalue : (offset.natAbs : Int) = offset := by omega
    rw [zoneForm, hclock, Option.map_some, hmicros, hvalue]

/-! ## Moments -/

theorem startsZone_of_isDigit {c : Char} (h : c.isDigit = true) : startsZone c = false := by
  simp only [startsZone, Bool.or_eq_false_iff, decide_eq_false_iff_not]
  refine ⟨⟨?_, ?_⟩, ?_⟩
  all_goals
    rintro rfl
    cases h

theorem not_startsZone_text {c : Clock} {x : Char} (h : x ∈ c.text.toList) : startsZone x = false := by
  have hfraction : x ∈ (microText c.micro).toList → startsZone x = false := by
    rw [toList_microText]
    split
    · exact nofun
    · rintro (_ | ⟨_, hdigit⟩)
      · rfl
      · exact startsZone_of_isDigit (isDigit_of_mem_zeroPadded hdigit)
  simp only [toList_text, List.mem_append, List.mem_cons] at h
  rcases h with hdigit | rfl | hdigit | rfl | hdigit | hx
  · exact startsZone_of_isDigit (isDigit_of_mem_zeroPadded hdigit)
  · rfl
  · exact startsZone_of_isDigit (isDigit_of_mem_zeroPadded hdigit)
  · rfl
  · exact startsZone_of_isDigit (isDigit_of_mem_zeroPadded hdigit)
  · exact hfraction hx

theorem zonedClockForm_text {c : Clock} {offset : Int} (h : c.Valid) (hlow : -microsPerDay < offset)
    (hhigh : offset < microsPerDay) :
    zonedClockForm (c.text.toList ++ (offsetText offset).toList) = some (c, some offset) := by
  have hclock : ∀ x ∈ c.text.toList, (!startsZone x) = true := fun x hx => by rw [not_startsZone_text hx, Bool.not_false]
  have hsign : startsZone (if offset < 0 then '-' else '+') = true := by split <;> rfl
  have hzone := zoneForm_offsetText hlow hhigh
  rw [toList_offsetText] at hzone ⊢
  rw [zonedClockForm, List.takeWhile_append_of_pos hclock, List.dropWhile_append_of_pos hclock,
    List.takeWhile_cons_of_neg (by simp [hsign]), List.dropWhile_cons_of_neg (by simp [hsign]), List.append_nil,
    clockForm_text h, hzone]
  rfl

theorem toList_dateText (d : Date) : d.text.toList = (zeroPadded 4 d.year.toNat).toList ++ '-' ::
    ((zeroPadded 2 d.month).toList ++ '-' :: (zeroPadded 2 d.day).toList) := by
  simp [Date.text, String.toList_append]

theorem dateForm_text {d : Date} (h : d.Valid) (hfirst : firstYear ≤ d.year) (hlast : d.year ≤ lastYear) (rest : List Char) :
    dateForm (d.text.toList ++ rest) = some (d, rest) := by
  have hyear : ((d.year.toNat : Nat) : Int) = d.year := Int.toNat_of_nonneg (Int.le_trans (by decide) hfirst)
  have hfour : d.year.toNat < 10 ^ 4 := by
    unfold lastYear at hlast
    omega
  have hmonth : d.month < 10 ^ 2 := Nat.lt_of_le_of_lt h.month_le (by decide)
  have hday : d.day < 10 ^ 2 := Nat.lt_of_le_of_lt (h.day_le.trans (daysInMonth_le _ _)) (by decide)
  rw [toList_dateText, dateForm]
  simp [fixedDigits_zeroPadded (show 0 < 4 by decide) hfour, fixedDigits_zeroPadded (show 0 < 2 by decide) hmonth,
    fixedDigits_zeroPadded (show 0 < 2 by decide) hday, hyear]

theorem Date.Valid.check {d : Date} (h : d.Valid) (hfirst : firstYear ≤ d.year) (hlast : d.year ≤ lastYear) :
    d.check = .ok d := by
  obtain ⟨hmonth, htwelve, hday, hlength⟩ := h
  rw [Date.check, if_neg (by omega), if_neg (by omega), if_neg (by omega)]

theorem Clock.Valid.check {c : Clock} (h : c.Valid) : c.check = .ok c := by
  obtain ⟨hhour, hminute, hsecond, -⟩ := h
  rw [Clock.check, if_neg (by omega), if_neg (by omega), if_neg (by omega)]

theorem readMoment_text {m : Moment} {offset : Int} (h : m.Valid) (hfirst : firstYear ≤ m.date.year)
    (hlast : m.date.year ≤ lastYear) (hlow : -microsPerDay < offset) (hhigh : offset < microsPerDay) :
    readMoment (m.isoText ++ offsetText offset) = .ok (m, some offset) := by
  have htext : (m.isoText ++ offsetText offset).toList =
      m.date.text.toList ++ 'T' :: (m.clock.text.toList ++ (offsetText offset).toList) := by
    simp [Moment.isoText, String.toList_append]
  have hoffset : checkOffset (some offset) = .ok (some offset) := if_neg (by omega)
  rw [readMoment, htext, dateForm_text h.date hfirst hlast]
  simp only [zonedClockForm_text h.clock hlow hhigh, hoffset, h.date.check hfirst hlast, h.clock.check]
  rfl

end TableDump.Calendar

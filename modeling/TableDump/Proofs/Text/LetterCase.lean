import TableDump.Text.LetterCase

/-! # Case mapping of names

* Lowering keeps low lines and makes no others (`lowerFrom_lowLine`), so that the parts of a name
  before and after a low line are lowered on their own.
* ASCII letters: names that differ only in the case of these are lowered and raised alike.
-/

namespace TableDump.Text
set_option autoImplicit false

/-! ## ASCII letters -/

def capital (i : Fin 26) : Char := Char.ofNat (65 + i)

theorem toLower_eq_or (c : Char) : c.toLower = c ∨ ∃ i, c = capital i := by
  unfold Char.toLower
  split
  · next h =>
    have hlow : 65 ≤ c.toNat := UInt32.le_iff_toNat_le.1 h.1
    have hhigh : c.toNat ≤ 90 := UInt32.le_iff_toNat_le.1 h.2
    refine .inr ⟨⟨c.toNat - 65, by omega⟩, ?_⟩
    rw [capital, Nat.add_sub_cancel' hlow, Char.ofNat_toNat]
  · exact .inl rfl

theorem toLower_invisible {α : Type} {f : Char → α} (h : ∀ i, f (capital i).toLower = f (capital i)) (c : Char) :
    f c.toLower = f c := by
  obtain hc | ⟨i, rfl⟩ := toLower_eq_or c
  · rw [hc]
  · exact h i

theorem lowerChar_toLower (c : Char) : lowerChar c.toLower = lowerChar c := toLower_invisible (by decide) c

theorem upperChar_toLower (c : Char) : upperChar c.toLower = upperChar c := toLower_invisible (by decide) c

theorem isCased_toLower (c : Char) : isCased c.toLower = isCased c := toLower_invisible (by decide +kernel) c

theorem isCaseIgnorable_toLower (c : Char) : isCaseIgnorable c.toLower = isCaseIgnorable c :=
  toLower_invisible (by decide +kernel) c

theorem toLower_eq_sigma (c : Char) : (c.toLower = 'Σ') = (c = 'Σ') := by
  have h := toLower_invisible (f := fun d => decide (d = 'Σ')) (by decide) c
  simpa using h

theorem startsCased_toLower (l : List Char) : startsCased (l.map Char.toLower) = startsCased l := by
  induction l with
  | nil => rfl
  | cons c l ih => rw [List.map_cons, startsCased, startsCased, isCaseIgnorable_toLower, isCased_toLower, ih]

theorem lowerFrom_toLower (cased : Bool) (l : List Char) : lowerFrom cased (l.map Char.toLower) = lowerFrom cased l := by
  induction l generalizing cased with
  | nil => rfl
  | cons c l ih =>
    simp only [List.map_cons, lowerFrom, toLower_eq_sigma, startsCased_toLower, lowerChar_toLower, isCaseIgnorable_toLower,
      isCased_toLower, ih]

/-- Texts that differ at most in the case of ASCII letters. -/
def SameLetters (s t : String) : Prop := s.toList.map Char.toLower = t.toList.map Char.toLower

theorem SameLetters.lower_eq {s t : String} (h : SameLetters s t) : lower s = lower t := by
  rw [lower, lower, ← lowerFrom_toLower false s.toList, h, lowerFrom_toLower]

theorem SameLetters.upper_eq {s t : String} (h : SameLetters s t) : upper s = upper t := by
  have hmap : ∀ l : List Char, (l.map Char.toLower).flatMap upperChar = l.flatMap upperChar := by
    intro l
    rw [List.flatMap_map]
    simp only [upperChar_toLower]
  rw [upper, upper, ← hmap s.toList, h, hmap]

/-- The text with capitals for all small ASCII letters. -/
def capitals (s : String) : String := String.ofList (s.toList.map Char.toUpper)

theorem toUpper_eq_or (c : Char) : c.toUpper = c ∨ ∃ i, c = (capital i).toLower := by
  unfold Char.toUpper
  split
  · next h =>
    have hlow : 97 ≤ c.toNat := UInt32.le_iff_toNat_le.1 h.1
    have hhigh : c.toNat ≤ 122 := UInt32.le_iff_toNat_le.1 h.2
    have hsmall : ∀ i : Fin 26, (capital i).toLower = Char.ofNat (97 + i) := by decide
    refine .inr ⟨⟨c.toNat - 97, by omega⟩, ?_⟩
    rw [hsmall, Nat.add_sub_cancel' hlow, Char.ofNat_toNat]
  · exact .inl rfl

theorem sameLetters_capitals (s : String) : SameLetters s (capitals s) := by
  have hsmall : ∀ i, (capital i).toLower.toUpper.toLower = (capital i).toLower.toLower := by decide
  rw [SameLetters, capitals, String.toList_ofList, List.map_map]
  refine List.map_congr_left fun c _ => ?_
  obtain hc | ⟨i, rfl⟩ := toUpper_eq_or c
  · rw [Function.comp_apply, hc]
  · exact (hsmall i).symm

/-! ## Empty texts -/

theorem lowerChar_ne_nil (c : Char) : lowerChar c ≠ [] := by
  rw [lowerChar]
  split
  · exact List.cons_ne_nil _ _
  · split <;> exact List.cons_ne_nil _ _

theorem lower_eq_empty_iff {s : String} : lower s = "" ↔ s = "" := by
  rw [← String.toList_eq_nil_iff, ← String.toList_eq_nil_iff, lower, String.toList_ofList]
  cases s.toList with
  | nil => simp [lowerFrom]
  | cons c rest =>
    simp only [lowerFrom, List.append_eq_nil_iff, reduceCtorEq, iff_false, not_and]
    intro hnil
    split at hnil
    · cases hnil
    · exact absurd hnil (lowerChar_ne_nil c)

theorem eq_empty_of_sameName {s : String} (h : sameName "" s = true) : s = "" :=
  lower_eq_empty_iff.1 ((sameName_iff.1 h).symm.trans (lower_eq_empty_iff.2 rfl))

theorem isEmpty_congr {s t : String} (h : sameName s t = true) : s.isEmpty = t.isEmpty := by
  rw [Bool.eq_iff_iff, String.isEmpty_iff, String.isEmpty_iff, ← lower_eq_empty_iff, sameName_iff.1 h, lower_eq_empty_iff]

/-! ## Low lines -/

/-- No run reaches the code point from above. -/
theorem shifted_ne {point : Nat} {runs : List (Nat × Nat × Nat × Int)}
    (hruns : ∀ run ∈ runs, (point : Int) < run.1 + run.2.2.2) {c : Nat} (hc : point < c) : shifted runs c ≠ point := by
  induction runs with
  | nil => exact Nat.ne_of_gt hc
  | cons run rest ih =>
    obtain ⟨first, last, step, shift⟩ := run
    have hhead : (point : Int) < first + shift := hruns _ List.mem_cons_self
    rw [shifted]
    split
    · omega
    · exact ih fun run hrun => hruns run (List.mem_cons_of_mem _ hrun)

theorem ofNat_ne_lowLine {n : Nat} (hn : n ≠ 95) : Char.ofNat n ≠ '_' := by
  intro h
  by_cases hvalid : n.isValidChar
  · rw [Char.ofNat, dif_pos hvalid] at h
    exact hn (congrArg Char.toNat h)
  · rw [Char.ofNat, dif_neg hvalid] at h
    exact absurd h (by decide)

theorem toLower_ne_lowLine {c : Char} (hc : c ≠ '_') : c.toLower ≠ '_' := by
  obtain h | ⟨i, rfl⟩ := toLower_eq_or c
  · rwa [h]
  · revert i
    decide

theorem lowLine_notMem_lowerChar {c : Char} (hc : c ≠ '_') : '_' ∉ lowerChar c := by
  have hruns : ∀ run ∈ lowerRuns, ((95 : Nat) : Int) < run.1 + run.2.2.2 := by decide +kernel
  rw [lowerChar]
  split
  · exact fun h => toLower_ne_lowLine hc (List.mem_singleton.1 h).symm
  · next hascii =>
    split
    · decide
    · exact fun h => ofNat_ne_lowLine (shifted_ne hruns (by omega)) (List.mem_singleton.1 h).symm

theorem lowerChar_lowLine : lowerChar '_' = ['_'] := by decide

theorem isCaseIgnorable_lowLine : isCaseIgnorable '_' = false := by decide +kernel

theorem isCased_lowLine : isCased '_' = false := by decide +kernel

theorem startsCased_lowLine (l r : List Char) : startsCased (l ++ '_' :: r) = startsCased l := by
  induction l with
  | nil => simp [startsCased, isCaseIgnorable_lowLine, isCased_lowLine]
  | cons c l ih => rw [List.cons_append, startsCased, startsCased, ih]

/-- What stands before a low line is lowered as if nothing stood behind it. -/
theorem lowerFrom_lowLine (cased : Bool) (l r : List Char) :
    lowerFrom cased (l ++ '_' :: r) = lowerFrom cased l ++ '_' :: lowerFrom false r := by
  induction l generalizing cased with
  | nil => simp [lowerFrom, lowerChar_lowLine, isCaseIgnorable_lowLine, isCased_lowLine]
  | cons c l ih => rw [List.cons_append, lowerFrom, lowerFrom, startsCased_lowLine, ih, List.append_assoc]

theorem lowLine_notMem_lowerFrom {l : List Char} (h : '_' ∉ l) (cased : Bool) : '_' ∉ lowerFrom cased l := by
  induction l generalizing cased with
  | nil => simp [lowerFrom]
  | cons c l ih =>
    simp only [List.mem_cons, not_or] at h
    rw [lowerFrom, List.mem_append, not_or]
    refine ⟨?_, ih h.2 _⟩
    split
    · split <;> decide
    · exact lowLine_notMem_lowerChar (Ne.symm h.1)

theorem lowLine_mem_lower_iff {s : String} : '_' ∈ (lower s).toList ↔ '_' ∈ s.toList := by
  rw [lower, String.toList_ofList]
  constructor
  · intro h
    exact Decidable.not_not.1 fun hnone => lowLine_notMem_lowerFrom hnone false h
  · intro h
    obtain ⟨before, after, hsplit⟩ := List.append_of_mem h
    rw [hsplit, lowerFrom_lowLine]
    exact List.mem_append_right _ List.mem_cons_self

end TableDump.Text

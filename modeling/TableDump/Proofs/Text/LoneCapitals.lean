import Mathlib.Data.Bool.AllAny
import TableDump.Proofs.Text.LetterCase

/-! # Capitals that no small letter is raised to

Raising a text that was lowered first gives what raising the text gives, unless it holds one of six capitals.

* `loneCapitals`: capitals that stay what they are when they are raised, while their small letters are raised to others.
* For every other character, raising undoes lowering (`raise_lowerChar`). Beyond ASCII this is read off the runs of the
  case tables: of the code points that a run lowers, each is compared with what it is lowered to, by the runs and
  expansions near the two (`comesBack_iff`).
* Texts of one name without lone capitals are raised to one text (`upper_eq_of_sameName`). Each lone capital and its small
  letters are one name and are raised to two (`upper_lone`).
-/

namespace TableDump.Text
set_option autoImplicit false

/-- Capital i with a dot, the theta symbol, capital sharp s, and the signs for ohm, kelvin and angstrom. -/
def loneCapitals : List Char := ['\u0130', '\u03F4', '\u1E9E', '\u2126', '\u212A', '\u212B']

/-! ## Tables -/

abbrev CaseRun := Nat × Nat × Nat × Int

/-- The code points between the ends of a run, as far apart as it says. -/
def runPoints (run : CaseRun) : List Nat := List.range' run.1 ((run.2.1 - run.1) / run.2.2.1 + 1) run.2.2.1

theorem mem_runPoints {run : CaseRun} {c : Nat} (h : run.1 ≤ c ∧ c ≤ run.2.1 ∧ (c - run.1) % run.2.2.1 = 0) :
    c ∈ runPoints run := by
  obtain ⟨hfirst, hlast, hstep⟩ := h
  have hle : (c - run.1) / run.2.2.1 ≤ (run.2.1 - run.1) / run.2.2.1 := Nat.div_le_div_right (by omega)
  have hmul : run.2.2.1 * ((c - run.1) / run.2.2.1) = c - run.1 := by
    have := Nat.div_add_mod (c - run.1) run.2.2.1
    omega
  refine List.mem_range'.2 ⟨(c - run.1) / run.2.2.1, by omega, ?_⟩
  omega

/-- A code point is shifted by a run that holds it, or stays. -/
theorem shifted_cases (runs : List CaseRun) (c : Nat) :
    shifted runs c = c ∨ ∃ run ∈ runs, c ∈ runPoints run ∧ shifted runs c = ((c : Int) + run.2.2.2).toNat := by
  induction runs with
  | nil => exact .inl rfl
  | cons run rest ih =>
    rw [shifted]
    split
    · next hin => exact .inr ⟨run, List.mem_cons_self, mem_runPoints hin, rfl⟩
    · obtain h | ⟨other, hother, h⟩ := ih
      · exact .inl h
      · exact .inr ⟨other, List.mem_cons_of_mem _ hother, h⟩

/-- Runs that do not reach a code point can be left out. -/
theorem shifted_filter {runs : List CaseRun} {p : CaseRun → Bool} {c : Nat}
    (h : ∀ run : CaseRun, run.1 ≤ c → c ≤ run.2.1 → p run = true) : shifted (runs.filter p) c = shifted runs c := by
  induction runs with
  | nil => rfl
  | cons run rest ih =>
    rw [List.filter_cons, shifted]
    by_cases hrun : p run = true
    · rw [if_pos hrun, shifted, ih]
    · rw [if_neg hrun, ih, if_neg fun hin => hrun (h run hin.1 hin.2.1)]

theorem lookup_filter {entries : List (Nat × List Nat)} {p : Nat × List Nat → Bool} {c : Nat}
    (h : ∀ entry : Nat × List Nat, entry.1 = c → p entry = true) : (entries.filter p).lookup c = entries.lookup c := by
  induction entries with
  | nil => rfl
  | cons entry rest ih =>
    rw [List.filter_cons, List.lookup_cons]
    by_cases hc : c = entry.1
    · rw [if_pos (h entry hc.symm), List.lookup_cons, ih]
    · have hne : (c == entry.1) = false := by simpa using hc
      split
      · rw [List.lookup_cons, hne, ih]
      · rw [hne, ih]

/-- What a code point is raised to. -/
def raisedBy (expansions : List (Nat × List Nat)) (runs : List CaseRun) (c : Nat) : List Nat :=
  (expansions.lookup c).getD [shifted runs c]

/-- What the code points from `low` to `high` are raised to, by the parts of the tables that reach them. -/
def raisedNear (low high : Nat) : Nat → List Nat :=
  raisedBy (upperExpansions.filter fun entry => Nat.ble low entry.1 && Nat.ble entry.1 high)
    (upperRuns.filter fun run => Nat.ble low run.2.1 && Nat.ble run.1 high)

theorem raisedNear_eq {low high c : Nat} (hlow : low ≤ c) (hhigh : c ≤ high) :
    raisedNear low high c = raisedBy upperExpansions upperRuns c := by
  rw [raisedNear, raisedBy, raisedBy, lookup_filter, shifted_filter]
  · intro run hfirst hlast
    simp only [Bool.and_eq_true, Nat.ble_eq]
    omega
  · rintro entry rfl
    simp [hlow, hhigh]

/-- A code point, moved as a run says. -/
def CaseRun.move (run : CaseRun) (c : Nat) : Nat := ((c : Int) + run.2.2.2).toNat

/-- Whether the code points of a run and what it moves them to are raised alike, lone capitals left aside. -/
def CaseRun.comesBack (run : CaseRun) : Bool :=
  (runPoints run).all fun c =>
    (loneCapitals.map Char.toNat).contains c ||
      (Nat.ble 128 (run.move c) && (run.move c).isValidChar &&
        raisedNear (run.move run.1) (run.move run.2.1) (run.move c) == raisedNear run.1 run.2.1 c)

theorem comesBack_lowerRuns : lowerRuns.all CaseRun.comesBack = true := by decide +kernel

theorem comesBack_iff {run : CaseRun} : run.comesBack = true ↔ ∀ c ∈ runPoints run, c ∈ loneCapitals.map Char.toNat ∨
    128 ≤ run.move c ∧ (run.move c).isValidChar ∧
      raisedNear (run.move run.1) (run.move run.2.1) (run.move c) = raisedNear run.1 run.2.1 c := by
  simp [CaseRun.comesBack, and_assoc]

theorem bounds_of_mem_runPoints {run : CaseRun} {c : Nat} (h : c ∈ runPoints run) (hends : run.1 ≤ run.2.1) :
    run.1 ≤ c ∧ c ≤ run.2.1 := by
  obtain ⟨i, hi, rfl⟩ := List.mem_range'.1 h
  have hmul : run.2.2.1 * i ≤ run.2.1 - run.1 := by
    calc run.2.2.1 * i ≤ run.2.2.1 * ((run.2.1 - run.1) / run.2.2.1) := Nat.mul_le_mul_left _ (Nat.le_of_lt_succ hi)
      _ ≤ run.2.1 - run.1 := Nat.mul_div_le _ _
  omega

/-- A code point that is lowered to another one is raised to what that one is raised to. -/
theorem raisedBy_shifted {c : Nat} (hlone : c ∉ loneCapitals.map Char.toNat) (hmoved : shifted lowerRuns c ≠ c) :
    128 ≤ shifted lowerRuns c ∧ (shifted lowerRuns c).isValidChar ∧
      raisedBy upperExpansions upperRuns (shifted lowerRuns c) = raisedBy upperExpansions upperRuns c := by
  obtain h | ⟨run, hrun, hpoint, hshifted⟩ := shifted_cases lowerRuns c
  · exact absurd h hmoved
  · have hends : ∀ run ∈ lowerRuns, run.1 ≤ run.2.1 := by decide +kernel
    obtain ⟨hfirst, hlast⟩ := bounds_of_mem_runPoints hpoint (hends run hrun)
    have hmove : run.move c = shifted lowerRuns c := hshifted.symm
    obtain hone | ⟨hlow, hvalid, hnear⟩ := comesBack_iff.1 (List.all_eq_true.1 comesBack_lowerRuns run hrun) c hpoint
    · exact absurd hone hlone
    · rw [raisedNear_eq hfirst hlast, raisedNear_eq, hmove] at hnear
      · exact ⟨hmove ▸ hlow, hmove ▸ hvalid, hnear⟩
      · simp only [CaseRun.move]
        omega
      · simp only [CaseRun.move]
        omega

/-! ## Characters -/

theorem upperChar_eq {c : Char} (h : 128 ≤ c.toNat) :
    upperChar c = (raisedBy upperExpansions upperRuns c.toNat).map Char.ofNat := by
  rw [upperChar, if_neg (Nat.not_lt.2 h), raisedBy]
  cases upperExpansions.lookup c.toNat <;> rfl

/-- Raising undoes lowering. -/
theorem raise_lowerChar {c : Char} (h : c ∉ loneCapitals) : (lowerChar c).flatMap upperChar = upperChar c := by
  rw [lowerChar]
  by_cases hascii : c.toNat < 128
  · rw [if_pos hascii, List.flatMap_singleton, upperChar_toLower]
  · have hlone : c.toNat ∉ loneCapitals.map Char.toNat := by
      intro hmem
      obtain ⟨d, hd, heq⟩ := List.mem_map.1 hmem
      exact h (Char.toNat_inj.1 heq ▸ hd)
    have hdot : c ≠ 'İ' := fun heq => h (heq ▸ by decide)
    rw [if_neg hascii, if_neg hdot, List.flatMap_singleton]
    by_cases hmoved : shifted lowerRuns c.toNat = c.toNat
    · rw [hmoved, Char.ofNat_toNat]
    · obtain ⟨hlow, hvalid, hraised⟩ := raisedBy_shifted hlone hmoved
      have hpoint : (Char.ofNat (shifted lowerRuns c.toNat)).toNat = shifted lowerRuns c.toNat := by
        rw [Char.ofNat, dif_pos hvalid]
        rfl
      rw [upperChar_eq (by omega), upperChar_eq (by omega), hpoint, hraised]

/-! ## Texts -/

theorem raise_lowerFrom {l : List Char} (h : ∀ c ∈ l, c ∉ loneCapitals) (cased : Bool) :
    (lowerFrom cased l).flatMap upperChar = l.flatMap upperChar := by
  induction l generalizing cased with
  | nil => rfl
  | cons c l ih =>
    obtain ⟨hc, hl⟩ := List.forall_mem_cons.1 h
    rw [lowerFrom, List.flatMap_append, ih hl, List.flatMap_cons]
    congr 1
    by_cases hsigma : c = 'Σ'
    · -- both small sigmas are raised to the capital one
      subst hsigma
      have hfinal : upperChar 'ς' = upperChar 'Σ' := by decide +kernel
      have hinner : upperChar 'σ' = upperChar 'Σ' := by decide +kernel
      rw [if_pos rfl, List.flatMap_singleton]
      split
      · exact hfinal
      · exact hinner
    · rw [if_neg hsigma, raise_lowerChar hc]

/-- A text without lone capitals. -/
def Rises (s : String) : Prop := ∀ c ∈ s.toList, c ∉ loneCapitals

instance (s : String) : Decidable (Rises s) := List.decidableBAll (fun c => c ∉ loneCapitals) s.toList

theorem Rises.upper_lower {s : String} (h : Rises s) : upper (lower s) = upper s := by
  rw [upper, upper, lower, String.toList_ofList, raise_lowerFrom h]

theorem upper_eq_of_sameName {s t : String} (hs : Rises s) (ht : Rises t) (h : sameName s t = true) :
    upper s = upper t := by
  rw [← hs.upper_lower, ← ht.upper_lower, sameName_iff.1 h]

/-- A lone capital and its small letters are one name, but are raised to two. -/
theorem upper_lone : ∀ c ∈ loneCapitals, sameName (String.singleton c) (lower (String.singleton c)) = true ∧
    upper (String.singleton c) ≠ upper (lower (String.singleton c)) :=
  List.all_iff_forall_prop.1 (by decide +kernel)

end TableDump.Text

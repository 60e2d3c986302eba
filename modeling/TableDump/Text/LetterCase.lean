import TableDump.Text.Ranges
import TableDump.Text.CaseTable

/-! # Letter case

Case mapping of whole texts, and names compared ignoring case.

* `lower`, `upper`: full case mapping, where one character may become several;
* a capital sigma is final, and becomes `ς`, when a cased letter stands before it and none stands
  after it, case-ignorable marks left aside on both sides;
* `sameName`: two names are the same ignoring case when their lower case texts are equal.
-/

namespace TableDump.Text
set_option autoImplicit false

/-! ## One character -/

/-- The code point that the first run holding `c` maps it to, `c` itself where no run does. -/
def shifted : List (Nat × Nat × Nat × Int) → Nat → Nat
  | [], c => c
  | (first, last, step, shift) :: rest, c =>
    if first ≤ c ∧ c ≤ last ∧ (c - first) % step = 0 then ((c : Int) + shift).toNat else shifted rest c

def isCased (c : Char) : Bool := inRanges casedBounds c.toNat

def isCaseIgnorable (c : Char) : Bool := inRanges ignorableBounds c.toNat

def lowerChar (c : Char) : List Char :=
  if c.toNat < 128 then [c.toLower]
  else if c = 'İ' then ['i', '\u0307']
  else [Char.ofNat (shifted lowerRuns c.toNat)]

def upperChar (c : Char) : List Char :=
  if c.toNat < 128 then [c.toUpper]
  else match upperExpansions.lookup c.toNat with
    | some points => points.map Char.ofNat
    | none => [Char.ofNat (shifted upperRuns c.toNat)]

/-! ## Whole texts -/

/-- Whether the first character that is not case-ignorable is a cased letter. -/
def startsCased : List Char → Bool
  | [] => false
  | c :: rest => if isCaseIgnorable c then startsCased rest else isCased c

/-- Lower case of the rest of a text; `cased` tells whether what stands before it ends in a cased
letter, case-ignorable marks left aside. -/
def lowerFrom (cased : Bool) : List Char → List Char
  | [] => []
  | c :: rest =>
    (if c = 'Σ' then [if cased && !startsCased rest then 'ς' else 'σ'] else lowerChar c) ++
      lowerFrom (if isCaseIgnorable c then cased else isCased c) rest

def lower (s : String) : String := String.ofList (lowerFrom false s.toList)

def upper (s : String) : String := String.ofList (s.toList.flatMap upperChar)

/-! ## Names -/

/-- Equality of names ignoring case. -/
def sameName (a b : String) : Bool := lower a == lower b

theorem sameName_iff {a b : String} : sameName a b = true ↔ lower a = lower b := by
  simp [sameName]

theorem sameName_refl (a : String) : sameName a a = true := by simp [sameName]

theorem sameName_comm (a b : String) : sameName a b = sameName b a := by
  rw [Bool.eq_iff_iff, sameName_iff, sameName_iff, eq_comm]

theorem sameName_trans {a b c : String} (hab : sameName a b = true) (hbc : sameName b c = true) :
    sameName a c = true :=
  sameName_iff.2 ((sameName_iff.1 hab).trans (sameName_iff.1 hbc))

end TableDump.Text

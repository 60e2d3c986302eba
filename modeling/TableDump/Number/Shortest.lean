import TableDump.Number.Binary64
import TableDump.Text.LetterCase

/-! # Shortest decimal text

The fewest digits that read back as the same floating point number, and of those the nearest.

* The numbers that round to `m · 2 ^ e` form an interval around it, ends included when `m` is even;
  below a power of two it is half as wide.
* `shortest` tries the decimal grids of 1, 2, … 17 digits: on each, the two points around the number
  are tested, and the first grid with a point in the interval wins.
* `Binary64.text` writes plain digits from 10⁻⁴ up to 10¹⁶ and a power of ten elsewhere.
-/

namespace TableDump.Number
open TableDump.Text
set_option autoImplicit false

/-- `coefficient · 10 ^ exponent`. -/
structure Digits where
  coefficient : Nat
  exponent : Int
deriving DecidableEq, Repr

/-! ## The interval and the grid -/

/-- `a · 2 ^ x` against `c · 10 ^ p`. -/
def compareScaled (a : Nat) (x : Int) (c : Nat) (p : Int) : Ordering :=
  compare (a * twoPow x.toNat * tenPow (-p).toNat) (c * tenPow p.toNat * twoPow (-x).toNat)

/-- The whole part of `a · 2 ^ x / 10 ^ p`. -/
def floorScaled (a : Nat) (x p : Int) : Nat :=
  a * twoPow x.toNat * tenPow (-p).toNat / (tenPow p.toNat * twoPow (-x).toNat)

/-- Whether `c · 10 ^ p` rounds to `m · 2 ^ e`. -/
def roundsTo (m : Nat) (e : Int) (c : Nat) (p : Int) : Bool :=
  let below := if m = twoPow 52 ∧ Binary64.leastExponent < e then 1 else 2
  match compareScaled (4 * m - below) (e - 2) c p, compareScaled (4 * m + 2) (e - 2) c p with
  | .lt, .gt => true
  | .eq, _ => m % 2 == 0
  | .lt, .eq => m % 2 == 0
  | _, _ => false

/-- The power of ten of the first digit of `m · 2 ^ e`. -/
def leadingPower (m : Nat) (e : Int) : Int :=
  let guess := (((Nat.log2 m : Int) + e) * 30103).fdiv 100000
  if 0 < floorScaled m e (guess + 1) then guess + 1
  else if 0 < floorScaled m e guess then guess
  else guess - 1

/-- The grid point of `n` digits that reads back, the nearer of two. -/
def onGrid? (m : Nat) (e : Int) (n : Nat) : Option Digits :=
  let p := leadingPower m e + 1 - n
  let c := floorScaled m e p
  match roundsTo m e c p, roundsTo m e (c + 1) p with
  | true, true => match compareScaled (2 * m) e (2 * c + 1) p with
    | .lt => some ⟨c, p⟩
    | .gt => some ⟨c + 1, p⟩
    | .eq => some ⟨c + c % 2, p⟩
  | true, false => some ⟨c, p⟩
  | false, true => some ⟨c + 1, p⟩
  | false, false => none

/-- Without the zeros at the end of the coefficient, which has at most `fuel` digits. -/
def Digits.trimmed : Nat → Digits → Digits
  | 0, d => d
  | fuel + 1, d =>
    if d.coefficient ≠ 0 ∧ d.coefficient % 10 = 0 then trimmed fuel ⟨d.coefficient / 10, d.exponent + 1⟩ else d

def shortest (m : Nat) (e : Int) : Digits :=
  let found := ((List.range 17).findSome? fun i => onGrid? m e (i + 1)).getD
    ⟨floorScaled m e (leadingPower m e - 16), leadingPower m e - 16⟩
  found.trimmed 20

/-! ## Text -/

/-- Digits with a point: `point` digits stand before it, zeros filling up on either side. -/
def plainText (digits : String) (point : Int) : String :=
  if point ≤ 0 then "0." ++ String.ofList (List.replicate (-point).toNat '0') ++ digits
  else if (digits.length : Int) ≤ point then
    digits ++ String.ofList (List.replicate (point.toNat - digits.length) '0') ++ ".0"
  else String.ofList (digits.toList.take point.toNat) ++ "." ++ String.ofList (digits.toList.drop point.toNat)

/-- One digit, the others behind a point, and the power of ten with a sign and two digits at least. -/
def powerText (digits : String) (power : Int) : String :=
  let first := String.ofList (digits.toList.take 1)
  let others := String.ofList (digits.toList.drop 1)
  first ++ (if others.isEmpty then "" else "." ++ others) ++ "e" ++
    (if power < 0 then "-" else "+") ++ zeroPadded 2 power.natAbs

def Digits.text (d : Digits) : String :=
  let digits := toString d.coefficient
  let point := d.exponent + digits.length
  if -4 < point ∧ point ≤ 16 then plainText digits point else powerText digits (point - 1)

namespace Binary64

def text : Binary64 → String
  | finite negative m e => signText negative ++ (if m = 0 then "0.0" else (shortest m e).text)
  | infinite negative => signText negative ++ "inf"
  | notANumber => "nan"

/-- Reads a numeral or one of the names of the numbers that are not finite, in any letter case. -/
def read? (s : String) : Option Binary64 :=
  let (negative, cs) := takeSign s.toList
  let name := Text.lower (String.ofList cs)
  if name = "nan" then some notANumber
  else if name = "inf" ∨ name = "infinity" then some (infinite negative)
  else (Numeral.read? s.toList).map ofNumeral

end Binary64
end TableDump.Number

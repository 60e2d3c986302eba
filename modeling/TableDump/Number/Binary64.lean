import TableDump.Number.Numeral
import TableDump.Number.Power

/-! # Binary floating point numbers

Numbers of the 64 bit binary format, kept exactly.

* `Binary64.finite negative m e` is `± m · 2 ^ e` with `m < 2 ^ 53` and `-1074 ≤ e ≤ 971`;
* `ofFraction` rounds a fraction to the nearest number of the format, a tie to the even mantissa;
* `compare?` compares by value, `fixedText` writes a given number of places.
-/

namespace TableDump.Number
open TableDump.Text
set_option autoImplicit false

inductive Binary64
  | finite (negative : Bool) (mantissa : Nat) (exponent : Int)
  | infinite (negative : Bool)
  | notANumber
deriving DecidableEq, Repr

/-! ## Rounding -/

/-- The whole number nearest to `num / den`, the even one of two. -/
def roundHalfEven (num den : Nat) : Nat :=
  let q := num / den
  let r := num % den
  if 2 * r < den then q else if den < 2 * r then q + 1 else q + q % 2

/-- `num / den / 2 ^ e` as numerator and denominator. -/
def divPowTwo (num den : Nat) (e : Int) : Nat × Nat := (num * twoPow (-e).toNat, den * twoPow e.toNat)

/-- `n · 10 ^ e` as numerator and denominator. -/
def mulPowTen (n : Nat) (e : Int) : Nat × Nat := (n * tenPow e.toNat, tenPow (-e).toNat)

/-- The greatest power of two at or below a positive fraction. -/
def floorLog2 (num den : Nat) : Int :=
  let guess : Int := (Nat.log2 num : Int) - Nat.log2 den
  let (n, d) := divPowTwo num den guess
  if d ≤ n then guess else guess - 1

namespace Binary64

def leastExponent : Int := -1074

def greatestExponent : Int := 971

def ofFraction (negative : Bool) (num den : Nat) : Binary64 :=
  if num = 0 then finite negative 0 leastExponent
  else
    let e := max leastExponent (floorLog2 num den - 52)
    let (n, d) := divPowTwo num den e
    let m := roundHalfEven n d
    let (m, e) := if m = twoPow 53 then (twoPow 52, e + 1) else (m, e)
    if greatestExponent < e then infinite negative else finite negative m e

/-! ## From and to other numbers -/

/-- The nearest number; a numeral beyond all exponents is not expanded. -/
def ofNumeral (n : Numeral) : Binary64 :=
  let size : Int := (toString n.coefficient).length + n.exponent
  if n.coefficient = 0 ∨ size < -400 then finite n.negative 0 leastExponent
  else if 400 < size then infinite n.negative
  else
    let (num, den) := mulPowTen n.coefficient n.exponent
    ofFraction n.negative num den

def ofInt (n : Int) : Binary64 := ofFraction (n < 0) n.natAbs 1

/-- The magnitude as numerator and denominator. -/
def magnitude (m : Nat) (e : Int) : Nat × Nat := (m * twoPow e.toNat, twoPow (-e).toNat)

def isZero : Binary64 → Bool
  | finite _ m _ => m == 0
  | _ => false

/-- Numerator and denominator of a finite number. -/
def fraction? : Binary64 → Option (Int × Nat)
  | finite negative m e =>
    let (num, den) := magnitude m e
    some (if negative then -(num : Int) else num, den)
  | _ => none

/-! ## Comparison -/

/-- Comparison by value; a number that is none compares with nothing. -/
def compare? : Binary64 → Binary64 → Option Ordering
  | notANumber, _ => none
  | _, notANumber => none
  | infinite a, infinite b => some (if a == b then .eq else if a then .lt else .gt)
  | infinite a, finite .. => some (if a then .lt else .gt)
  | finite .., infinite b => some (if b then .gt else .lt)
  | x@(finite ..), y@(finite ..) =>
    match x.fraction?, y.fraction? with
    | some (a, b), some (c, d) => some (compare (a * d) (c * b))
    | _, _ => none

/-! ## Text with a fixed number of places -/

/-- The digits of `n` with a point before the last `places` of them. -/
def withPoint (places n : Nat) : String :=
  if places = 0 then toString n
  else toString (n / tenPow places) ++ "." ++ zeroPadded places (n % tenPow places)

def fixedText (places : Nat) : Binary64 → String
  | finite negative m e =>
    let (num, den) := magnitude m e
    signText negative ++ withPoint places (roundHalfEven (num * tenPow places) den)
  | infinite negative => signText negative ++ "inf"
  | notANumber => "nan"

end Binary64
end TableDump.Number

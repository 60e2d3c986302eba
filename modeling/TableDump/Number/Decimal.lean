import TableDump.Number.Numeral
import TableDump.Text.LetterCase

/-! # Decimal numbers

Decimal numbers that keep their exponent, so that `1.10` and `1.1` differ in text and agree in value.

* `Decimal.text` writes plain digits when the exponent is at most zero and the first digit stands at
  10⁻⁶ or above, and a power of ten otherwise;
* `Decimal.read?` reads such a text back, leading zeros dropped.
-/

namespace TableDump.Number
set_option autoImplicit false

inductive Decimal
  | finite (number : Numeral)
  | infinite (negative : Bool)
  | notANumber (negative signaling : Bool) (payload : String)
deriving DecidableEq, Repr

namespace Decimal

def isZero : Decimal → Bool
  | finite n => n.coefficient == 0
  | _ => false

/-! ## Text -/

/-- Digits with a point before the last `places` of them. -/
def pointedText (digits : String) (places : Nat) : String :=
  if places = 0 then digits
  else if digits.length ≤ places then
    "0." ++ String.ofList (List.replicate (places - digits.length) '0') ++ digits
  else
    String.ofList (digits.toList.take (digits.length - places)) ++ "." ++
      String.ofList (digits.toList.drop (digits.length - places))

def scientificText (digits : String) (power : Int) : String :=
  let others := String.ofList (digits.toList.drop 1)
  String.ofList (digits.toList.take 1) ++ (if others.isEmpty then "" else "." ++ others) ++ "E" ++
    (if power < 0 then "-" else "+") ++ toString power.natAbs

def text : Decimal → String
  | finite n =>
    let digits := toString n.coefficient
    let power := n.exponent + digits.length - 1
    signText n.negative ++
      (if n.exponent ≤ 0 ∧ -6 ≤ power then pointedText digits (-n.exponent).toNat
        else scientificText digits power)
  | infinite negative => signText negative ++ "Infinity"
  | notANumber negative signaling payload =>
    signText negative ++ (if signaling then "sNaN" else "NaN") ++ payload

/-! ## Reading -/

/-- A text without the zeros it begins with. -/
def withoutZeros (cs : List Char) : String := String.ofList (cs.dropWhile (· == '0'))

def readName? (negative : Bool) (cs : List Char) : Option Decimal :=
  let name := (Text.lower (String.ofList cs)).toList
  if name = "inf".toList ∨ name = "infinity".toList then some (infinite negative)
  else match name with
    | 'n' :: 'a' :: 'n' :: payload =>
      if payload.all Char.isDigit then some (notANumber negative false (withoutZeros payload)) else none
    | 's' :: 'n' :: 'a' :: 'n' :: payload =>
      if payload.all Char.isDigit then some (notANumber negative true (withoutZeros payload)) else none
    | _ => none

def read? (s : String) : Option Decimal :=
  match Numeral.read? s.toList with
  | some n => some (finite n)
  | none =>
    let (negative, cs) := takeSign s.toList
    readName? negative cs

end Decimal
end TableDump.Number

import TableDump.Text.Ranges
import TableDump.Text.ClassTable
import TableDump.Text.Blank
import TableDump.Text.Digits

/-! # Numerals

Numbers as they are written.

* `Numeral`: sign, coefficient and power of ten of a decimal numeral, read by `Numeral.read?`;
* `whole?`: a whole number in decimal digits of any script, with a sign, with single low lines
  between digits, and with blanks around it. More than `digitLimit` digits are refused.
-/

namespace TableDump.Number
open TableDump.Text
set_option autoImplicit false

/-! ## Digits -/

/-- The value of a decimal digit of any script. -/
def digit? (c : Char) : Option Nat :=
  (digitZeros.find? fun first => first ≤ c.toNat && c.toNat < first + 10).map fun first => c.toNat - first

/-- The value of `value` followed by the ASCII digits that `cs` begins with, their number, and the
rest of `cs`. -/
def takeDigits (value count : Nat) : List Char → Nat × Nat × List Char
  | [] => (value, count, [])
  | c :: rest => match digitValue? c with
    | some d => takeDigits (value * 10 + d) (count + 1) rest
    | none => (value, count, c :: rest)

/-- Splits a leading sign off; `true` for a minus sign. -/
def takeSign : List Char → Bool × List Char
  | '-' :: rest => (true, rest)
  | '+' :: rest => (false, rest)
  | cs => (false, cs)

def signText (negative : Bool) : String := if negative then "-" else ""

/-! ## Decimal numerals -/

/-- The number `± coefficient · 10 ^ exponent`. -/
structure Numeral where
  negative : Bool
  coefficient : Nat
  exponent : Int
deriving DecidableEq, Repr

/-- The exponent part of a numeral, up to the end of the text. -/
def readExponent : List Char → Option Int
  | [] => some 0
  | c :: rest =>
    if c = 'e' ∨ c = 'E' then
      let (negative, digits) := takeSign rest
      match takeDigits 0 0 digits with
      | (_, 0, _) => none
      | (n, _, []) => some (if negative then -(n : Int) else n)
      | _ => none
    else none

def readFraction (negative : Bool) (value count : Nat) : List Char → Option Numeral
  | '.' :: rest =>
    let (value, places, rest) := takeDigits value 0 rest
    if count + places = 0 then none
    else (readExponent rest).map fun e => ⟨negative, value, e - places⟩
  | rest => if count = 0 then none else (readExponent rest).map fun e => ⟨negative, value, e⟩

/-- A numeral: an optional sign, digits with at most one point, an optional exponent. -/
def Numeral.read? (cs : List Char) : Option Numeral :=
  let (negative, cs) := takeSign cs
  let (value, count, rest) := takeDigits 0 0 cs
  readFraction negative value count rest

/-! ## Whole numbers -/

/-- The blanks allowed around a whole number. -/
def isNumeralBlank (c : Char) : Bool := ('\t' ≤ c && c ≤ '\r') || c = ' ' || isWideBlank c

/-- Digits with single low lines between them; `fresh` when a digit has to come next. -/
def wholeDigits (value : Nat) (fresh : Bool) : List Char → Option Nat
  | [] => if fresh then none else some value
  | c :: rest =>
    if c = '_' then (if fresh then none else wholeDigits value true rest)
    else match digit? c with
      | some d => wholeDigits (value * 10 + d) false rest
      | none => none

/-- The most digits that a whole number is read from. -/
def digitLimit : Nat := 4300

/-- How many digits come next, counted from `count` on, with single low lines between them; none where a low line
is not followed by a digit. -/
def digitRun (count : Nat) (fresh : Bool) : List Char → Nat
  | [] => if fresh then 0 else count
  | c :: rest =>
    if c = '_' then (if fresh then 0 else digitRun count true rest)
    else if (digit? c).isSome then digitRun (count + 1) false rest
    else if fresh then 0 else count

/-- The digits that a text begins with behind its sign. -/
def leadingDigits (s : String) : Nat := digitRun 0 true (takeSign (trimBoth isNumeralBlank s.toList)).2

def whole? (s : String) : Option Int :=
  let (negative, digits) := takeSign (trimBoth isNumeralBlank s.toList)
  if digitLimit < digitRun 0 true digits then none
  else (wholeDigits 0 true digits).map fun n => if negative then -(n : Int) else n

end TableDump.Number

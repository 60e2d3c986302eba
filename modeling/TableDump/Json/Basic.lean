import TableDump.Number.Binary64
import TableDump.Fault

/-! # JSON values

* `Json`: values with whole and floating point numbers kept apart and members in order;
* `Json.truth`: null, false, zero and what is empty are false;
* `Json.member?`, `Json.items`: reading a value as an object and as a sequence, refused by kind;
* `Json.textFor`: a value where only a text will do;
* `Json.sameKey`: equality of values used as keys, where numbers are equal by value.
-/

namespace TableDump
open TableDump.Number
set_option autoImplicit false

inductive Json
  | null
  | bool (b : Bool)
  | int (n : Int)
  | float (x : Binary64)
  | str (s : String)
  | arr (items : List Json)
  | obj (members : List (String × Json))
deriving Repr

namespace Json

def kind : Json → ValueKind
  | null => .null
  | bool _ => .boolean
  | int _ => .integer
  | float _ => .float
  | str _ => .text
  | arr _ => .list
  | obj _ => .map

def truth : Json → Bool
  | null => false
  | bool b => b
  | int n => n != 0
  | float x => !x.isZero
  | str s => !s.isEmpty
  | arr items => !items.isEmpty
  | obj members => !members.isEmpty

/-- The first value that is true, else the second. -/
def orElse (a b : Json) : Json := if a.truth then a else b

/-! ## Objects and sequences -/

def lookup (key : String) : List (String × Json) → Option Json
  | [] => none
  | (k, v) :: rest => if k = key then some v else lookup key rest

/-- The member of an object. -/
def member? (key : String) : Json → Except Fault (Option Json)
  | obj members => .ok (lookup key members)
  | j => .error (.noMember j.kind "get")

/-- The member of an object, `default` where it has none. -/
def member (key : String) (j default : Json) : Except Fault Json :=
  (j.member? key).map fun v => v.getD default

/-- What a value holds when it is gone through: the items of a list, the characters of a text, the
keys of an object. -/
def items : Json → Except Fault (List Json)
  | arr items => .ok items
  | str s => .ok (s.toList.map fun c => str (String.singleton c))
  | obj members => .ok (members.map fun m => str m.1)
  | j => .error (.notIterable j.kind)

/-! ## Texts -/

/-- The text itself, where `use` is what is wanted of it. -/
def textFor (use : String) : Json → Except Fault String
  | str s => .ok s
  | j => .error (.noMember j.kind use)

/-! ## Keys -/

/-- A number as numerator and denominator. -/
def fraction? : Json → Option (Int × Nat)
  | bool b => some (if b then 1 else 0, 1)
  | int n => some (n, 1)
  | float x => x.fraction?
  | _ => none

def sameKey : Json → Json → Bool
  | null, null => true
  | str a, str b => a == b
  | float (.infinite a), float (.infinite b) => a == b
  | a, b => match a.fraction?, b.fraction? with
    | some (n, d), some (m, e) => n * e == m * d
    | _, _ => false

/-- Whether a value can be a key; lists and objects cannot. -/
def checkKey : Json → Except Fault Unit
  | arr _ => .error (.unhashable .list)
  | obj _ => .error (.unhashable .map)
  | _ => .ok ()

/-! ## Numbers -/

/-- How a number compares with zero, for `value operator 0`; what is no number is refused. -/
def compareZero (operator : String) : Json → Except Fault (Option Ordering)
  | bool b => .ok (some (compare (if b then 1 else 0 : Int) 0))
  | int n => .ok (some (compare n 0))
  | float x => .ok (x.compare? (.ofInt 0))
  | j => .error (.notOrdered operator j.kind .integer)

/-- A positive number without its fraction. -/
def toWhole : Json → Except Fault Int
  | float x => match x.fraction? with
    | some (n, d) => .ok (n / d)
    | none => .error .infiniteWhole
  | bool b => .ok (if b then 1 else 0)
  | int n => .ok n
  | _ => .ok 0

end Json
end TableDump

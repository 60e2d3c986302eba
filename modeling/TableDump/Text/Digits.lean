/-! # Digits

* `digitValue?`: the value of an ASCII digit;
* `zeroPadded`: a number in at least so many digits.
-/

namespace TableDump.Text
set_option autoImplicit false

def digitValue? (c : Char) : Option Nat := if '0' ≤ c ∧ c ≤ '9' then some (c.toNat - 48) else none

def zeroPadded (width n : Nat) : String :=
  let digits := toString n
  String.ofList (List.replicate (width - digits.length) '0') ++ digits

end TableDump.Text

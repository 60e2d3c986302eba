/-! # Sets of code points

* `inRanges bounds c`: `bounds` lists, in increasing order, the code points where membership
  changes, beginning with the first member; `c` belongs to the set when an odd number of them
  is at or below it.
-/

namespace TableDump.Text
set_option autoImplicit false

/-- Membership in the union of the half-open intervals that `bounds` lists pair by pair. -/
def inRanges : List Nat → Nat → Bool
  | lo :: hi :: rest, c => if c < lo then false else c < hi || inRanges rest c
  | _, _ => false

theorem inRanges_nil (c : Nat) : inRanges [] c = false := rfl

theorem inRanges_cons (lo hi : Nat) (rest : List Nat) (c : Nat) :
    inRanges (lo :: hi :: rest) c = (if c < lo then false else c < hi || inRanges rest c) := rfl

end TableDump.Text

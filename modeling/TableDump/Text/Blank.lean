/-! # Blanks

* `isBlank`: the white space characters of the Unicode character database together with the four
  information separators;
* `strip`: a text without the blanks at its two ends.
-/

namespace TableDump.Text
set_option autoImplicit false

/-- White space beyond ASCII. -/
def isWideBlank (c : Char) : Bool :=
  c = '\u0085' || c = '\u00a0' || c = '\u1680' || ('\u2000' ≤ c && c ≤ '\u200a') ||
    c = '\u2028' || c = '\u2029' || c = '\u202f' || c = '\u205f' || c = '\u3000'

def isBlank (c : Char) : Bool :=
  ('\t' ≤ c && c ≤ '\r') || ('\x1c' ≤ c && c ≤ ' ') || isWideBlank c

/-- The text between the first and the last character that fail `drop`. -/
def trimBoth (drop : Char → Bool) (cs : List Char) : List Char :=
  ((cs.dropWhile drop).reverse.dropWhile drop).reverse

def strip (s : String) : String := String.ofList (trimBoth isBlank s.toList)

end TableDump.Text

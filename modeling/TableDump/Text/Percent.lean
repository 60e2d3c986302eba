import TableDump.Text.Hex
import TableDump.Text.Utf8

/-! # Percent encoding

* `percentEncode safe s`: ASCII letters, digits, `_`, `.`, `-`, `~` and the `safe` characters stand for
  themselves, each other byte of the UTF-8 text is a percent sign and two upper case digits;
* `formEncode s`: the same with a space written as `+`;
* `percentDecode`, `formDecode` read them back; a percent sign not followed by two hexadecimal digits
  stands for itself, and bytes that are not UTF-8 are shown as U+FFFD.
-/

namespace TableDump.Text
set_option autoImplicit false

/-! ## Writing -/

def isUnreserved (c : Char) : Bool := c.isAlphanum || c = '_' || c = '.' || c = '-' || c = '~'

def percentByte (safe : List Char) (b : UInt8) : List Char :=
  let c := Char.ofNat b.toNat
  if isUnreserved c || safe.contains c then [c] else '%' :: hexPair b

def percentEncode (safe : List Char) (s : String) : String :=
  String.ofList ((utf8 s).flatMap (percentByte safe))

def spaceAsPlus (c : Char) : Char := if c = ' ' then '+' else c

def formEncode (s : String) : String :=
  String.ofList ((percentEncode [' '] s).toList.map spaceAsPlus)

/-! ## Reading -/

/-- The bytes that a percent encoded text stands for. -/
def percentBytes : List Char → List UInt8
  | [] => []
  | '%' :: a :: b :: rest =>
    match hexValue? a, hexValue? b with
    | some high, some low => UInt8.ofNat (16 * high + low) :: percentBytes rest
    | _, _ => String.utf8EncodeChar '%' ++ percentBytes (a :: b :: rest)
  | c :: rest => String.utf8EncodeChar c ++ percentBytes rest

def percentDecode (s : String) : String := utf8Lossy (percentBytes s.toList)

def plusAsSpace (c : Char) : Char := if c = '+' then ' ' else c

def formDecode (s : String) : String := utf8Lossy (percentBytes (s.toList.map plusAsSpace))

end TableDump.Text

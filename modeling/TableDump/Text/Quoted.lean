import TableDump.Text.Ranges
import TableDump.Text.ClassTable
import TableDump.Text.Hex

/-! # Quoted text

How a text or a run of bytes is shown inside a message.

* The quote is an apostrophe, or a double quote when the text holds an apostrophe and no double quote.
* A backslash and the quote itself take a backslash; line feed, carriage return and tab are `\n`, `\r`
  and `\t`; any other character that is not printable is `\xNN`, `\uNNNN` or `\UNNNNNNNN`.
* Of bytes, only printable ASCII is shown as it is.
-/

namespace TableDump.Text
set_option autoImplicit false

def isPrintable (c : Char) : Bool := inRanges printableBounds c.toNat

def quoteFor (cs : List Char) : Char :=
  if cs.contains '\'' && !cs.contains '"' then '"' else '\''

def escapedControl? : Char → Option (List Char)
  | '\n' => some ['\\', 'n']
  | '\r' => some ['\\', 'r']
  | '\t' => some ['\\', 't']
  | _ => none

def quotedChar (quote c : Char) : List Char :=
  if c = '\\' ∨ c = quote then ['\\', c]
  else match escapedControl? c with
    | some escaped => escaped
    | none =>
      if isPrintable c then [c]
      else if c.toNat < 0x100 then '\\' :: 'x' :: hexPadded 2 c.toNat
      else if c.toNat < 0x10000 then '\\' :: 'u' :: hexPadded 4 c.toNat
      else '\\' :: 'U' :: hexPadded 8 c.toNat

def quoted (s : String) : String :=
  let quote := quoteFor s.toList
  String.ofList (quote :: s.toList.flatMap (quotedChar quote) ++ [quote])

def quotedByte (quote c : Char) : List Char :=
  if c = '\\' ∨ c = quote then ['\\', c]
  else match escapedControl? c with
    | some escaped => escaped
    | none => if ' ' ≤ c ∧ c < '\x7f' then [c] else '\\' :: 'x' :: hexPadded 2 c.toNat

/-- Bytes as the characters of the same numbers. -/
def byteChars (bytes : List UInt8) : List Char := bytes.map fun b => Char.ofNat b.toNat

def markedBytes (quote escaped : Char) (cs : List Char) : String :=
  String.ofList ('b' :: quote :: cs.flatMap (quotedByte escaped) ++ [quote])

/-- Bytes between quotes, marked by a leading `b`. -/
def quotedBytes (bytes : List UInt8) : String :=
  let cs := byteChars bytes
  markedBytes (quoteFor cs) (quoteFor cs) cs

/-- The same, with a backslash before every apostrophe, whatever the quote is. -/
def quotedMutableBytes (bytes : List UInt8) : String :=
  let cs := byteChars bytes
  markedBytes (quoteFor cs) '\'' cs

end TableDump.Text
